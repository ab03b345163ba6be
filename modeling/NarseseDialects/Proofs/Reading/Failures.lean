import NarseseDialects.Proofs.Reading.Placement

namespace NarseseDialects

/-- Neither left set bracket is empty. A bracket without a character would open the next set at its own
place. -/
def Dialect.SetsOpen (d : Dialect) : Prop := ∀ s, (d.sets.pair s).left ≠ []

lemma Dialect.ClearTerms.setsOpen {d : Dialect} (h : d.ClearTerms) : d.SetsOpen := by
  intro s
  rcases h.opener (.set s) with he | ⟨hne, -⟩
  · cases he
  · exact hne

namespace Reading

open Outcome

def Fault.isEndless : Fault → Bool
  | .endlessSet _ => true
  | _ => false

variable {d : Dialect} {ε τ σ κ : Type} {m : Maker ε τ σ κ} {stop : Nat} {text : Text} {P : ε → Prop}

structure Maker.Refuses (m : Maker ε τ σ κ) (text : Text) (P : ε → Prop) : Prop where
  fault : ∀ f p, f.isEndless = false → p ≤ text.length → P (m.fault f p)
  atom : ∀ sigil name p, sigil ++ name <:+: text → p ≤ text.length → FailsWith P (m.atom sigil name p)
  compound : ∀ c ts p, p ≤ text.length → FailsWith P (m.compound c ts p)
  set : ∀ l ts r p, p ≤ text.length → FailsWith P (m.set l ts r p)
  statement : ∀ c t u p, p ≤ text.length → FailsWith P (m.statement c t u p)
  sentence : ∀ t tail p, tail.punctuationPlace ≤ text.length → tail.truthPlace ≤ text.length →
    FailsWith P (m.sentence t tail p)
  task : ∀ h s, h.place ≤ text.length → FailsWith P (m.task h s)

lemma isEndless_unclosedFault (right cs : Text) : (unclosedFault d right cs).isEndless = false := by
  unfold unclosedFault
  split
  · rfl
  · split <;> rfl

lemma isEndless_numeralFault? {q : Quantity} {t : Text} {f : Fault} (h : numeralFault? q t = some f) :
    f.isEndless = false := by
  unfold numeralFault? at h
  split at h
  · cases h
    rfl
  · split at h
    · cases h
    · cases h
      rfl

lemma length_lt_of_left? (hd : d.SetsOpen) {cs left right r : Text}
    (h : d.sets.family.left? cs = some (left, right, r)) : (skip d r).length < cs.length := by
  obtain ⟨s, -, -, rfl⟩ := exists_pair_of_left? h
  have hl : 0 < (d.sets.pair s).left.length := List.length_pos_iff.2 (hd s)
  have hr := length_skip_le d r
  rw [List.length_append]
  omega

lemma infix_of_suffix {a b c : Text} (h : a <:+ b) (hb : b <:+: c) : a <:+: c := h.isInfix.trans hb

section Terms

variable (hm : m.Refuses text P) (hs : stop ≤ text.length)

include hs in
lemma place_le (cs : Text) : place stop cs ≤ text.length := by
  rw [place]
  omega

include hm hs in
lemma failsWith_readAtom {cs : Text} (hcs : cs <:+: text) : FailsWith P (taken (readAtom d m stop cs)) := by
  rw [taken_readAtom]
  split
  · exact .error (hm.fault _ _ rfl (place_le hs _))
  next sigil r hf =>
  split
  · split
    · exact .error (hm.fault _ _ rfl (place_le hs _))
    · exact .error (hm.fault _ _ rfl (place_le hs _))
  · have hn : sigil ++ (nameSpan d r).1 <+: cs := by
      refine ⟨(nameSpan d r).2, ?_⟩
      rw [List.append_assoc, nameSpan_append, (Lexicon.mem_of_front? hf).2]
    apply (hm.atom _ _ _ (hn.isInfix.trans hcs) (place_le hs _)).bind
    intro t _
    exact .ok _

include hm hs

mutual

lemma failsWith_readTerm (hd : d.SetsOpen) {cs : Text} (hcs : cs <:+: text) :
    FailsWith P (taken (readTerm d m stop cs)) := by
  rw [taken_readTerm]
  have hl := length_skip_le d cs
  have hskip := infix_of_suffix (skip_suffix (d := d) cs) hcs
  split
  · exact .error (hm.fault _ _ rfl (place_le hs _))
  split
  next left right r hb =>
    -- The bracket has a character, so a set without end is out of the question.
    have hlt := length_lt_of_left? hd hb
    rw [if_pos hlt]
    split
    · exact .error (hm.fault _ _ rfl (place_le hs _))
    have hr : r <:+ skip d cs := BracketFamily.eq_append_of_left? hb ▸ List.suffix_append _ r
    apply (failsWith_readMembers hd (infix_of_suffix ((skip_suffix r).trans hr) hskip)).bind
    rintro ⟨ts, rest⟩ -
    apply (hm.set _ _ _ _ (place_le hs _)).bind
    intro t _
    exact .ok _
  next =>
  split
  next r hc =>
    have hr := length_lt_of_opening? hc
    exact failsWith_readCompound hd (infix_of_suffix (suffix_of_opening? hc) hcs) (place_le hs _)
  next =>
  split
  next r ho =>
    have hr := length_lt_of_opening? ho
    exact failsWith_readStatement hd (infix_of_suffix (suffix_of_opening? ho) hcs) (place_le hs _)
  next => exact failsWith_readAtom hm hs hskip
termination_by 2 * cs.length

lemma failsWith_readMembers (hd : d.SetsOpen) {right cs : Text} (hcs : cs <:+: text) :
    FailsWith P (taken (readMembers d m stop right cs)) := by
  rw [taken_readMembers]
  apply (failsWith_readTerm hd hcs).bind
  rintro ⟨t, r⟩ ht
  have hr := length_of_taken ht
  have hr' := length_skip_le d r
  obtain ⟨u, hu, -⟩ := exists_readsTerm ht
  dsimp only
  split
  next behind hb =>
    have hlt := length_lt_of_opening? hb
    have hbehind : behind <:+ cs := (suffix_of_opening? hb).trans (suffix_of_readsTerm hu)
    apply (failsWith_readMembers hd (infix_of_suffix hbehind hcs)).bind
    rintro ⟨ts, rest⟩ -
    exact .ok _
  next =>
  split
  · exact .ok _
  · exact .error (hm.fault _ _ (isEndless_unclosedFault _ _) (place_le hs _))
termination_by 2 * cs.length + 1

lemma failsWith_readCompound (hd : d.SetsOpen) {start : Nat} {cs : Text} (hcs : cs <:+: text)
    (hp : start ≤ text.length) : FailsWith P (taken (readCompound d m stop start cs)) := by
  rw [taken_readCompound]
  have hl := length_skip_le d cs
  split
  · exact .error (hm.fault _ _ rfl (place_le hs _))
  next connector r hf =>
  have hr := Lexicon.length_le_of_front? hf
  have hr' := length_skip_le d r
  split
  · exact .error (hm.fault _ _ rfl (place_le hs _))
  next behind hb =>
  have hlt := length_lt_of_opening? hb
  have hb' := length_skip_le d behind
  split
  · exact .error (hm.fault _ _ rfl (place_le hs _))
  have hbehind : skip d behind <:+ cs :=
    (skip_suffix behind).trans ((suffix_of_opening? hb).trans (suffix_of_front? hf))
  apply (failsWith_readMembers hd (infix_of_suffix hbehind hcs)).bind
  rintro ⟨ts, rest⟩ -
  apply (hm.compound _ _ _ hp).bind
  intro t _
  exact .ok _
termination_by 2 * cs.length + 1

lemma failsWith_readStatement (hd : d.SetsOpen) {start : Nat} {cs : Text} (hcs : cs <:+: text)
    (hp : start ≤ text.length) : FailsWith P (taken (readStatement d m stop start cs)) := by
  rw [taken_readStatement]
  apply (failsWith_readTerm hd hcs).bind
  rintro ⟨subject, r⟩ ht
  have hr := length_of_taken ht
  have hr' := length_skip_le d r
  obtain ⟨u, hu, -⟩ := exists_readsTerm ht
  dsimp only
  split
  · exact .error (hm.fault _ _ rfl (place_le hs _))
  next copula behind hf =>
  have hb := Lexicon.length_le_of_front? hf
  have hbehind : behind <:+ cs := (suffix_of_front? hf).trans (suffix_of_readsTerm hu)
  apply (failsWith_readTerm hd (infix_of_suffix hbehind hcs)).bind
  rintro ⟨predicate, q⟩ -
  dsimp only
  split
  · exact .error (hm.fault _ _ (isEndless_unclosedFault _ _) (place_le hs _))
  next rest he =>
  apply (hm.statement _ _ _ _ hp).bind
  intro t _
  exact .ok _
termination_by 2 * cs.length + 1

end

lemma failsWith_readWhole (hd : d.SetsOpen) {cs : Text} (hcs : cs <:+: text) :
    FailsWith P (readWhole d m stop cs) := by
  rw [readWhole_eq]
  apply (failsWith_readTerm hm hs hd hcs).bind
  rintro ⟨t, r⟩ -
  dsimp only
  split
  · exact .ok t
  split
  · exact .error (hm.fault _ _ rfl (place_le hs _))
  · exact .error (hm.fault _ _ rfl (place_le hs _))

lemma failsWith_readSentence (hd : d.SetsOpen) {tail : Tail} {cs : Text} (hcs : cs <:+: text)
    (hp : tail.punctuationPlace ≤ text.length) (ht : tail.truthPlace ≤ text.length) :
    FailsWith P (readSentence d m tail cs stop) := by
  rw [readSentence]
  split
  · exact .error (hm.fault _ _ rfl hs)
  · apply (failsWith_readWhole hm hs hd (infix_of_suffix (skip_suffix cs) hcs)).bind
    intro t _
    exact hm.sentence _ _ _ hp ht

end Terms

section Marks

variable {fault : Fault → Nat → ε} {inner before : Text} {tail : Tail} {p : Nat}

lemma failsWith_judgeNumerals {q : Quantity} {content : Text}
    (h : ∀ f : Fault, f.isEndless = false → P (fault f p)) : FailsWith P (judgeNumerals d fault q content p) := by
  rw [judgeNumerals]
  split
  · exact .ok []
  dsimp only
  split
  · exact .error (h _ rfl)
  split
  next f hf =>
    obtain ⟨t, -, ht⟩ := List.exists_of_findSome?_eq_some hf
    exact .error (h f (isEndless_numeralFault? ht))
  · exact .ok _

lemma failsWith_readHead {region whole : Text} (h : ∀ f : Fault, f.isEndless = false → P (fault f p)) :
    FailsWith P (readHead d fault region whole p) := by
  unfold readHead
  dsimp only
  split
  · exact .ok none
  split
  · exact .ok none
  · exact (failsWith_judgeNumerals h).map _

lemma place_of_readHead {region whole : Text} {head : Head}
    (h : readHead d fault region whole p = .ok (some (head, inner))) : head.place = p := by
  unfold readHead at h
  dsimp only at h
  split at h
  · cases h
  split at h
  · cases h
  · obtain ⟨budget, -, he⟩ := map_eq_ok.1 h
    cases he
    rfl

lemma TruthCut.bounds {region content : Text} (h : TruthCut d inner stop region content p)
    (hi : inner.length ≤ stop) : region.length ≤ inner.length ∧ p ≤ stop := by
  cases h with
  | absent => exact ⟨Nat.le_refl _, Nat.le_refl _⟩
  | @present a content hb =>
    have ha := (prefix_of_bracketedBack? hb).length_le
    have hr := (prefix_skipBack (d := d) a).length_le
    constructor
    · omega
    · omega

lemma failsWith_readTail (hi : inner.length ≤ stop)
    (h : ∀ (f : Fault) p, f.isEndless = false → p ≤ stop → P (fault f p)) :
    FailsWith P (readTail d fault inner stop) := by
  obtain ⟨region, content, p, hcut, he⟩ := exists_readTail_eq d fault inner stop
  obtain ⟨hr, hp⟩ := hcut.bounds hi
  rw [he]
  split
  · exact .ok none
  split
  · exact .error (h _ _ rfl (by omega))
  · exact (failsWith_judgeNumerals fun f hf => h f p hf hp).map _

lemma places_of_readTail (hi : inner.length ≤ stop)
    (h : readTail d fault inner stop = .ok (some (tail, before))) :
    tail.punctuationPlace ≤ stop ∧ tail.truthPlace ≤ stop := by
  obtain ⟨region, content, p, hcut, he⟩ := exists_readTail_eq d fault inner stop
  obtain ⟨hr, hp⟩ := hcut.bounds hi
  rw [he] at h
  split at h
  · cases h
  next b punctuation hb =>
  split at h
  · cases h
  · obtain ⟨truth, -, ht⟩ := map_eq_ok.1 h
    cases ht
    have hl : b.length ≤ (skipBack d (stampBack d region).before).length := by
      rw [(Lexicon.mem_of_back? hb).2, List.length_append]
      omega
    have hs := (prefix_skipBack (d := d) (stampBack d region).before).length_le
    have hs' := (prefix_stampBack (d := d) region).length_le
    refine ⟨?_, hp⟩
    dsimp only
    omega

end Marks

lemma failsWith_readRegion (hd : d.SetsOpen) (hm : m.Refuses text P) {region whole : Text} {start : Nat}
    (hr : region <:+: text) (hs : start + region.length ≤ text.length) :
    FailsWith P (readRegion d m region whole start) := by
  have hfault : ∀ (f : Fault) p, f.isEndless = false → p ≤ start + region.length → P (m.fault f p) :=
    fun f p hf hp => hm.fault f p hf (Nat.le_trans hp hs)
  rw [readRegion]
  apply (failsWith_readHead fun f hf => hfault f start hf (Nat.le_add_right ..)).bind
  intro head hh
  have hinner : (head.map Prod.snd).getD region <:+ region := by
    rcases head with _ | ⟨h, inner⟩
    · exact List.suffix_rfl
    · rw [readHead_mapError, mapError_eq_ok] at hh
      exact eq_append_of_readHead hh ▸ List.suffix_append _ _
  dsimp only
  generalize (head.map Prod.snd).getD region = inner at hinner
  have hi : inner.length ≤ start + region.length := by
    have := hinner.length_le
    omega
  apply (failsWith_readTail hi hfault).bind
  intro back ht
  rcases back with _ | ⟨tail, before⟩
  · apply (failsWith_readWhole hm hs hd hr).bind
    intro t _
    exact .ok _
  obtain ⟨hp, hp'⟩ := places_of_readTail hi ht
  rw [readTail_mapError, mapError_eq_ok] at ht
  have hb := prefix_of_readTail ht
  have hstop : start + region.length - inner.length + before.length ≤ text.length := by
    have := hb.length_le
    omega
  apply (failsWith_readSentence hm hstop hd (hb.isInfix.trans (infix_of_suffix hinner hr))
    (Nat.le_trans hp hs) (Nat.le_trans hp' hs)).bind
  intro s _
  rcases head with _ | ⟨h, inner⟩
  · exact .ok _
  · have hplace : h.place ≤ text.length := by
      rw [place_of_readHead hh]
      omega
    apply (hm.task _ _ hplace).bind
    intro k _
    exact .ok _

theorem failsWith_read (hd : d.SetsOpen) (hm : m.Refuses text P) : FailsWith P (read d m text) := by
  rw [read]
  have hw := (skip_suffix (d := d) text).length_le
  have hr := (prefix_skipBack (d := d) (skip d text)).length_le
  split
  · exact .error (hm.fault _ _ rfl (Nat.sub_le ..))
  · apply failsWith_readRegion hd hm
    · exact (prefix_skipBack _).isInfix.trans (skip_suffix text).isInfix
    · omega

end Reading

end NarseseDialects
