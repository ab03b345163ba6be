import NarseseDialects.Lexicon.Within
import NarseseDialects.Proofs.LongestMatch

namespace NarseseDialects

structure IsLongest (literals : List Text) (fits : Text → Prop) (e : Text) : Prop where
  mem : e ∈ literals
  fit : fits e
  length_le : ∀ a ∈ literals, fits a → a.length ≤ e.length

def FindsLongest (literals : List Text) (fits : Text → Text → Prop) (lookup : Text → Int → Int → Option Text) :
    Prop :=
  ∀ (t : Text) (start stop : Nat), start ≤ stop → stop ≤ t.length →
    (∀ e, lookup t start stop = some e ↔ IsLongest literals (fits · ((t.take stop).drop start)) e) ∧
      (lookup t start stop = none ↔ ∀ a ∈ literals, ¬ fits a ((t.take stop).drop start))

lemma IsLongest.congr {es fs : List Text} {fits : Text → Prop} (h : ∀ e, e ∈ es ↔ e ∈ fs) {e : Text} :
    IsLongest es fits e ↔ IsLongest fs fits e := by
  constructor
  · rintro ⟨hm, hf, hl⟩
    exact ⟨(h e).1 hm, hf, fun a ha => hl a ((h a).2 ha)⟩
  · rintro ⟨hm, hf, hl⟩
    exact ⟨(h e).2 hm, hf, fun a ha => hl a ((h a).1 ha)⟩

lemma FindsLongest.congr {es fs : List Text} {fits : Text → Text → Prop} {lookup : Text → Int → Int → Option Text}
    (h : ∀ e, e ∈ es ↔ e ∈ fs) (hl : FindsLongest es fits lookup) : FindsLongest fs fits lookup := by
  intro t start stop hs ht
  obtain ⟨hsome, hnone⟩ := hl t start stop hs ht
  exact ⟨fun e => (hsome e).trans (IsLongest.congr h), hnone.trans (forall_congr' fun a => by rw [h a])⟩

lemma Text.isSome_after?_iff {a cs : Text} : (Text.after? a cs).isSome = true ↔ a <+: cs := by
  rw [Option.isSome_iff_exists]
  exact exists_congr fun r => Text.after?_eq_some_iff.trans eq_comm

lemma Text.isSome_before?_iff {a cs : Text} : (Text.before? a cs).isSome = true ↔ a <:+ cs := by
  rw [Option.isSome_iff_exists]
  exact exists_congr fun r => Text.before?_eq_some_iff.trans eq_comm

namespace Lexicon

variable {l m : Lexicon} {e : Text}

lemma find?_eq_some_iff_isLongest {es : List Text} (hs : es.Pairwise fun a b => b.length ≤ a.length) {p : Text → Bool}
    (hu : ∀ a b, p a = true → p b = true → a.length = b.length → a = b) :
    es.find? p = some e ↔ IsLongest es (p · = true) e := by
  have hfound : ∀ {e}, es.find? p = some e → IsLongest es (p · = true) e := by
    intro e h
    refine ⟨List.mem_of_find?_eq_some h, List.find?_some h, fun a ha hp => ?_⟩
    rw [List.find?_eq_findSome?_guard] at h
    obtain ⟨b, hb, hn⟩ := exists_longest_of_findSome? hs h
    obtain ⟨rfl, -⟩ := Option.guard_eq_some_iff.1 hb
    by_contra hlt
    have hnone := hn a ha (Nat.lt_of_not_le hlt)
    simp [Option.guard, hp] at hnone
  refine ⟨hfound, fun h => ?_⟩
  obtain ⟨a, ha⟩ := Option.isSome_iff_exists.1 (List.find?_isSome.2 ⟨e, h.mem, h.fit⟩)
  have hl := hfound ha
  rw [ha, hu a e hl.fit h.fit (Nat.le_antisymm (h.length_le a hl.mem hl.fit) (hl.length_le e h.mem h.fit))]

structure Tries (fits : Text → Text → Prop) (p : Text → Text → Bool)
    (lookup : Lexicon → Text → Int → Int → Option Text) : Prop where
  eq : ∀ (l : Lexicon) t start stop,
    lookup l t start stop = (Text.window? t start stop).bind fun w => l.entries.find? (p · w)
  fits_iff : ∀ a w, p a w = true ↔ fits a w
  unique : ∀ a b w, fits a w → fits b w → a.length = b.length → a = b

section

variable {fits : Text → Text → Prop} {p : Text → Text → Bool} {lookup : Lexicon → Text → Int → Int → Option Text}

lemma Tries.find?_iff (h : Tries fits p lookup) {w : Text} :
    l.entries.find? (p · w) = some e ↔ IsLongest l.entries (fits · w) e := by
  have hfits : (fun a => p a w = true) = (fits · w) := funext fun a => propext (h.fits_iff a w)
  rw [← hfits]
  apply find?_eq_some_iff_isLongest l.longestFirst
  intro a b ha hb
  exact h.unique a b w ((h.fits_iff a w).1 ha) ((h.fits_iff b w).1 hb)

lemma Tries.findsLongest (h : Tries fits p lookup) (l : Lexicon) : FindsLongest l.entries fits (lookup l) := by
  intro t start stop hs ht
  rw [h.eq, Text.window?_natCast t hs ht, Option.bind_some]
  refine ⟨fun e => h.find?_iff, ?_⟩
  simp only [List.find?_eq_none, h.fits_iff]

lemma Tries.congr (h : Tries fits p lookup) (hm : ∀ e, e ∈ l.entries ↔ e ∈ m.entries) : lookup l = lookup m := by
  funext t start stop
  rw [h.eq, h.eq]
  congr 1
  funext w
  apply Option.ext
  intro e
  rw [h.find?_iff, h.find?_iff, IsLongest.congr hm]

end

lemma map_findSome?_eq_find? {β : Type} {es : List Text} {cut : Text → Option Text} {mk : Text → Text → β}
    {entry : β → Text} (h : ∀ a r, entry (mk a r) = a) :
    (es.findSome? fun a => (cut a).map (mk a)).map entry = es.find? fun a => (cut a).isSome := by
  rw [List.map_findSome?, List.find?_eq_findSome?_guard]
  congr 1
  funext a
  cases hc : cut a <;> simp [Option.guard, hc, h]

lemma tries_front : Tries (· <+: ·) (fun a w => (Text.after? a w).isSome) frontWithin? where
  eq l t start stop := by
    have hfind : ∀ w, (l.front? w).map Prod.fst = l.entries.find? fun a => (Text.after? a w).isSome := fun w =>
      map_findSome?_eq_find? fun _ _ => rfl
    simp only [frontWithin?, ← hfind, Option.map_eq_bind, Option.bind_eq_bind, Option.pure_def]
    rfl
  fits_iff a w := Text.isSome_after?_iff
  unique a b w ha hb hl := (List.prefix_of_prefix_length_le ha hb (Nat.le_of_eq hl)).eq_of_length hl

lemma tries_back : Tries (· <:+ ·) (fun a w => (Text.before? a w).isSome) backWithin? where
  eq l t start stop := by
    have hfind : ∀ w, (l.back? w).map Prod.snd = l.entries.find? fun a => (Text.before? a w).isSome := fun w =>
      map_findSome?_eq_find? fun _ _ => rfl
    simp only [backWithin?, ← hfind, Option.map_eq_bind, Option.bind_eq_bind, Option.pure_def]
    rfl
  fits_iff a w := Text.isSome_before?_iff
  unique a b w ha hb hl := (List.suffix_of_suffix_length_le ha hb (Nat.le_of_eq hl)).eq_of_length hl

lemma mem_of_frontWithin? {t : Text} {start stop : Int} (h : l.frontWithin? t start stop = some e) :
    e ∈ l.entries := by
  rw [tries_front.eq] at h
  obtain ⟨w, -, h⟩ := Option.bind_eq_some_iff.1 h
  exact List.mem_of_find?_eq_some h

lemma ofList?_eq_error_iff {given : List Text} : ofList? given = .error e ↔ repeated? [] given = some e := by
  unfold ofList?
  split
  next a ha => rw [ha, Except.error.injEq, Option.some.injEq]
  next hn => simp [hn]

lemma exists_repeated?_iff {given : List Text} : (∃ e, repeated? [] given = some e) ↔ ¬ given.Nodup := by
  have hn : repeated? [] given = none ↔ given.Nodup := repeated?_eq_none.trans (and_iff_left (by simp))
  rw [← hn, ← Option.isSome_iff_exists, Option.isSome_iff_ne_none]

lemma ofList?_of_nodup {given : List Text} (h : given.Nodup) : ofList? given = .ok (ofDistinct given h) := by
  unfold ofList?
  split
  next e he => exact absurd h (exists_repeated?_iff.1 ⟨e, he⟩)
  · rfl

end Lexicon

namespace BracketFamily

variable {f : BracketFamily} {l r : Text}

lemma ofList?_eq_error_iff {pairs : List (Text × Text)} {e : Text} :
    ofList? pairs = .error e ↔ Lexicon.repeated? [] (pairs.map Prod.fst) = some e := by
  unfold ofList?
  split
  next a ha => rw [ha, Except.error.injEq, Option.some.injEq]
  next hn => simp [hn]

lemma ofList?_of_nodup {pairs : List (Text × Text)} (h : (pairs.map Prod.fst).Nodup) :
    ofList? pairs = .ok (ofDistinct pairs h) := by
  unfold ofList?
  split
  next e he => exact absurd h (Lexicon.exists_repeated?_iff.1 ⟨e, he⟩)
  · rfl

lemma rightOf?_eq_some_iff : f.rightOf? l = some r ↔ (l, r) ∈ f.pairs := by
  refine ⟨fun h => ?_, rightOf?_of_mem⟩
  obtain ⟨p, hp, rfl⟩ := Option.map_eq_some_iff.1 h
  have hl : p.1 = l := by simpa using List.find?_some hp
  exact hl ▸ List.mem_of_find?_eq_some hp

def FirstPartner (pairs : List (Text × Text)) (right left : Text) : Prop :=
  ∃ before behind, pairs = before ++ (left, right) :: behind ∧ ∀ p ∈ before, p.2 ≠ right

lemma leftOf?_eq_some_iff : f.leftOf? r = some l ↔ FirstPartner f.pairs r l := by
  simp only [leftOf?, Option.map_eq_some_iff, List.find?_eq_some_iff_append]
  constructor
  · rintro ⟨⟨l, r'⟩, ⟨hr, before, behind, hp, hb⟩, rfl⟩
    obtain rfl : r' = r := by simpa using hr
    exact ⟨before, behind, hp, fun p hm => by simpa using hb p hm⟩
  · rintro ⟨before, behind, hp, hb⟩
    exact ⟨(l, r), ⟨by simp, before, behind, hp, fun p hm => by simpa using hb p hm⟩, rfl⟩

lemma FirstPartner.mem {pairs : List (Text × Text)} (h : FirstPartner pairs r l) : (l, r) ∈ pairs := by
  obtain ⟨before, behind, rfl, -⟩ := h
  simp

lemma exists_rightOf? (h : l ∈ f.pairs.map Prod.fst) : ∃ r, f.rightOf? l = some r := by
  obtain ⟨⟨l, r⟩, hp, rfl⟩ := List.mem_map.1 h
  exact ⟨r, rightOf?_of_mem hp⟩

lemma exists_leftOf? (h : r ∈ f.pairs.map Prod.snd) : ∃ l, f.leftOf? r = some l := by
  obtain ⟨p, hp, rfl⟩ := List.mem_map.1 h
  have hs : (f.pairs.find? (·.2 = p.2)).isSome = true := List.find?_isSome.2 ⟨p, hp, by simp⟩
  obtain ⟨q, hq⟩ := Option.isSome_iff_exists.1 hs
  exact ⟨q.1, by rw [leftOf?, hq, Option.map_some]⟩

lemma leftWithin?_eq_some_iff {t : Text} {start stop : Int} : f.leftWithin? t start stop = some (l, r) ↔
    f.lefts.frontWithin? t start stop = some l ∧ f.rightOf? l = some r := by
  simp [leftWithin?, Option.bind_eq_some_iff]

lemma rightWithin?_eq_some_iff {t : Text} {start stop : Int} : f.rightWithin? t start stop = some (r, l) ↔
    f.rights.frontWithin? t start stop = some r ∧ f.leftOf? r = some l := by
  simp [rightWithin?, Option.bind_eq_some_iff]

lemma map_leftWithin? (f : BracketFamily) (t : Text) (start stop : Int) :
    (f.leftWithin? t start stop).map Prod.fst = f.lefts.frontWithin? t start stop := by
  cases h : f.lefts.frontWithin? t start stop with
  | none => simp [leftWithin?, h]
  | some l =>
    obtain ⟨r, hr⟩ := exists_rightOf? ((f.mem_lefts l).1 (Lexicon.mem_of_frontWithin? h))
    rw [leftWithin?_eq_some_iff.2 ⟨h, hr⟩, Option.map_some]

lemma map_rightWithin? (f : BracketFamily) (t : Text) (start stop : Int) :
    (f.rightWithin? t start stop).map Prod.fst = f.rights.frontWithin? t start stop := by
  cases h : f.rights.frontWithin? t start stop with
  | none => simp [rightWithin?, h]
  | some r =>
    obtain ⟨l, hl⟩ := exists_leftOf? ((f.mem_rights r).1 (Lexicon.mem_of_frontWithin? h))
    rw [rightWithin?_eq_some_iff.2 ⟨h, hl⟩, Option.map_some]

lemma findsLongest_left (f : BracketFamily) : FindsLongest (f.pairs.map Prod.fst) (· <+: ·)
    fun t start stop => (f.leftWithin? t start stop).map Prod.fst := by
  simp only [map_leftWithin?]
  exact (Lexicon.tries_front.findsLongest f.lefts).congr f.mem_lefts

lemma findsLongest_right (f : BracketFamily) : FindsLongest (f.pairs.map Prod.snd) (· <+: ·)
    fun t start stop => (f.rightWithin? t start stop).map Prod.fst := by
  simp only [map_rightWithin?]
  exact (Lexicon.tries_front.findsLongest f.rights).congr f.mem_rights

lemma rightOf?_leftOf? (f : BracketFamily) (h : r ∈ f.pairs.map Prod.snd) : (f.leftOf? r).bind f.rightOf? = some r := by
  obtain ⟨l, hl⟩ := exists_leftOf? h
  rw [hl, Option.bind_some]
  exact rightOf?_of_mem (leftOf?_eq_some_iff.1 hl).mem

end BracketFamily

/-- Literals are looked up longest first, whatever the order in which they are given, and only a literal given
twice is refused. Brackets are found with their partners: a right bracket with the first left one it closes. -/
theorem lookup_longest (given : List Text) (pairs : List (Text × Text)) :
    ((∃ e, Lexicon.ofList? given = .error e) ↔ ¬ given.Nodup) ∧
    (given.Nodup → ∃ l, Lexicon.ofList? given = .ok l ∧
      FindsLongest given (· <+: ·) l.frontWithin? ∧ FindsLongest given (· <:+ ·) l.backWithin? ∧
      ∀ reordered, given.Perm reordered → ∃ m, Lexicon.ofList? reordered = .ok m ∧
        m.frontWithin? = l.frontWithin? ∧ m.backWithin? = l.backWithin?) ∧
    ((∃ e, BracketFamily.ofList? pairs = .error e) ↔ ¬ (pairs.map Prod.fst).Nodup) ∧
    ((pairs.map Prod.fst).Nodup → ∃ f, BracketFamily.ofList? pairs = .ok f ∧
      FindsLongest (pairs.map Prod.fst) (· <+: ·) (fun t start stop => (f.leftWithin? t start stop).map Prod.fst) ∧
      (∀ t start stop l r, f.leftWithin? t start stop = some (l, r) → (l, r) ∈ pairs) ∧
      FindsLongest (pairs.map Prod.snd) (· <+: ·) (fun t start stop => (f.rightWithin? t start stop).map Prod.fst) ∧
      (∀ t start stop r l, f.rightWithin? t start stop = some (r, l) → BracketFamily.FirstPartner pairs r l) ∧
      ∀ r ∈ pairs.map Prod.snd, (f.leftOf? r).bind f.rightOf? = some r) := by
  refine ⟨?_, fun h => ?_, ?_, fun h => ?_⟩
  · simp only [Lexicon.ofList?_eq_error_iff, Lexicon.exists_repeated?_iff]
  · have hmem : ∀ e, e ∈ (Lexicon.ofDistinct given h).entries ↔ e ∈ given := fun e => Lexicon.mem_ofDistinct
    refine ⟨_, Lexicon.ofList?_of_nodup h, (Lexicon.tries_front.findsLongest _).congr hmem,
      (Lexicon.tries_back.findsLongest _).congr hmem, fun reordered hp => ?_⟩
    have hsame : ∀ e, e ∈ (Lexicon.ofDistinct reordered (hp.nodup_iff.1 h)).entries ↔
        e ∈ (Lexicon.ofDistinct given h).entries := by
      intro e
      rw [Lexicon.mem_ofDistinct, Lexicon.mem_ofDistinct, hp.mem_iff]
    exact ⟨_, Lexicon.ofList?_of_nodup _, Lexicon.tries_front.congr hsame, Lexicon.tries_back.congr hsame⟩
  · simp only [BracketFamily.ofList?_eq_error_iff, Lexicon.exists_repeated?_iff]
  · let f := BracketFamily.ofDistinct pairs h
    refine ⟨f, BracketFamily.ofList?_of_nodup h, f.findsLongest_left, fun t start stop l r hl => ?_,
      f.findsLongest_right, fun t start stop r l hr => ?_, fun r hr => f.rightOf?_leftOf? hr⟩
    · exact BracketFamily.rightOf?_eq_some_iff.1 (BracketFamily.leftWithin?_eq_some_iff.1 hl).2
    · exact BracketFamily.leftOf?_eq_some_iff.1 (BracketFamily.rightWithin?_eq_some_iff.1 hr).2

def hyphened : List Text := ["-", "-->", "--", "--]"]

def closedAlike : List (Text × Text) := [("((", "))"), ("(", ")"), ("[(", "))")]

theorem hyphened_lookup_longest :
    (∃ l, Lexicon.ofList? hyphened = .ok l ∧ l.frontWithin? "a-->b" 1 5 = some "-->".toList ∧
      l.frontWithin? "a-->b" 1 3 = some "--".toList ∧ l.backWithin? "a-->b" 0 3 = some "--".toList ∧
      l.backWithin? "a-->b" 1 1 = none) ∧
    ∃ f, BracketFamily.ofList? closedAlike = .ok f ∧ (f.leftOf? "))").bind f.rightOf? = some "))".toList ∧
      (f.rightWithin? "a))" 1 3).map Prod.fst = some "))".toList := by
  obtain ⟨-, hlexicon, -, hfamily⟩ := lookup_longest hyphened closedAlike
  obtain ⟨l, hl, hfront, hback, -⟩ := hlexicon (by decide)
  obtain ⟨f, hf, -, -, hright, -, hpartner⟩ := hfamily (by decide)
  refine ⟨⟨l, hl, ?_, ?_, ?_, ?_⟩, f, hf, ?_, ?_⟩
  · exact ((hfront "a-->b" 1 5 (by decide) (by decide)).1 _).2 ⟨by decide, by decide, by decide⟩
  · exact ((hfront "a-->b" 1 3 (by decide) (by decide)).1 _).2 ⟨by decide, by decide, by decide⟩
  · exact ((hback "a-->b" 0 3 (by decide) (by decide)).1 _).2 ⟨by decide, by decide, by decide⟩
  · exact (hback "a-->b" 1 1 (by decide) (by decide)).2.2 (by decide)
  · exact hpartner "))" (by decide)
  · exact ((hright "a))" 1 3 (by decide) (by decide)).1 _).2 ⟨by decide, by decide, by decide⟩

end NarseseDialects
