import Mathlib.Data.List.Infix
import NarseseDialects.Proofs.Bounds
import NarseseDialects.Proofs.WellFormedTrees

namespace NarseseDialects.Reading

open Lexical

variable {d : Dialect} {stop : Nat} {text front chars : Text}

def StandsAtSpot (d : Dialect) (text : Text) (t : Lexical.Term) : Prop :=
  ∃ i, t.spot = some i ∧ (∃ c, text[i]? = some c ∧ d.spacing.isSpace c = false) ∧
    nonblank d (t.write d) <+: nonblank d (text.drop i)

def SpotsRise (t : Lexical.Term) : Prop :=
  ∃ (i : Nat) (is : List Nat), t.spot = some i ∧ t.children.map Term.spot = is.map some ∧ (i :: is).Pairwise (· < ·)

lemma length_lt_of_readsTerm {cs rest : Text} {t : Lexical.Term} (h : ReadsTerm d stop cs t rest) :
    rest.length < (skip d cs).length := by
  have ht : taken (readTerm d lexicalMaker stop (skip d cs)) = .ok (t, rest) := by
    rw [taken_readTerm_skip, taken_of_readsTerm h, make_lexicalMaker h]
    rfl
  exact length_of_taken ht

lemma place_lt {a b : Text} {p : Nat} (hab : b.length < a.length) (ha : a.length ≤ stop) (hp : place stop b ≤ p) :
    place stop a < p := by
  rw [place] at hp ⊢
  omega

lemma exists_places_of_readsMembers {right cs rest : Text} {ts : List Lexical.Term} (hcs : cs.length ≤ stop)
    (h : ReadsMembers d stop right cs ts rest) :
    ∃ ps : List Nat, ts.map Term.spot = ps.map some ∧ ps.Pairwise (· < ·) ∧ ∀ p ∈ ps, place stop cs ≤ p := by
  induction ts generalizing cs with
  | nil => cases h
  | cons t ts ih =>
    have hskip := length_skip_le d cs
    have hfirst : place stop cs ≤ place stop (skip d cs) := Nat.sub_le_sub_left hskip stop
    cases h with
    | last ht =>
      refine ⟨[place stop (skip d cs)], ?_, List.pairwise_singleton _ _, by simpa using hfirst⟩
      rw [List.map_singleton, List.map_singleton, spot_of_readsTerm ht]
    | more ht hs hm =>
      have hbehind := (length_lt_of_opening? hs).trans_le (length_skip_le d _)
      have hlt := hbehind.trans (length_lt_of_readsTerm ht)
      obtain ⟨ps, hps, hrise, hge⟩ := ih ((hlt.le.trans hskip).trans hcs) hm
      have hnext : ∀ p ∈ ps, place stop (skip d cs) < p := fun p hp => place_lt hlt (hskip.trans hcs) (hge p hp)
      refine ⟨place stop (skip d cs) :: ps, ?_, List.pairwise_cons.2 ⟨hnext, hrise⟩, ?_⟩
      · rw [List.map_cons, List.map_cons, spot_of_readsTerm ht, hps]
      · intro p hp
        rcases List.mem_cons.1 hp with rfl | hp
        · exact hfirst
        · exact hfirst.trans (hnext p hp).le

lemma exists_places_of_group {right cs cs' rest : Text} {ts : List Lexical.Term} (hcs : cs.length ≤ stop)
    (hlt : cs'.length < (skip d cs).length) (h : ReadsMembers d stop right cs' ts rest) :
    ∃ ps : List Nat, ts.map Term.spot = ps.map some ∧ (place stop (skip d cs) :: ps).Pairwise (· < ·) := by
  have hskip := (length_skip_le d cs).trans hcs
  obtain ⟨ps, hps, hrise, hge⟩ := exists_places_of_readsMembers (hlt.le.trans hskip) h
  exact ⟨ps, hps, List.pairwise_cons.2 ⟨fun p hp => place_lt hlt hskip (hge p hp), hrise⟩⟩

lemma spotsRise_of_readsTerm {cs rest : Text} {t : Lexical.Term} (hcs : cs.length ≤ stop)
    (h : ReadsTerm d stop cs t rest) : SpotsRise t := by
  cases h with
  | set _ _ hl hm =>
    obtain ⟨ps, hps, hrise⟩ := exists_places_of_group hcs hl hm
    exact ⟨_, ps, rfl, hps, hrise⟩
  | compound _ hc hf hp _ hm =>
    have hr := length_lt_of_opening? hc
    have hq := (Lexicon.length_le_of_front? hf).trans (length_skip_le d _)
    have hbehind := (length_lt_of_opening? hp).trans_le ((length_skip_le d _).trans hq)
    obtain ⟨ps, hps, hrise⟩ := exists_places_of_group hcs ((length_skip_le d _).trans_lt (hbehind.trans hr)) hm
    exact ⟨_, ps, rfl, hps, hrise⟩
  | @statement _ r subject q copula behind predicate p _ _ _ hl h₁ hf h₂ _ =>
    have hskip := length_skip_le d cs
    have hsubject := (length_skip_le d r).trans_lt (length_lt_of_opening? hl)
    have hbehind := (Lexicon.length_le_of_front? hf).trans (length_skip_le d q)
    have hpredicate := (length_skip_le d behind).trans_lt (hbehind.trans_lt (length_lt_of_readsTerm h₁))
    refine ⟨_, [place stop (skip d r), place stop (skip d behind)], rfl, ?_, ?_⟩
    · simp only [Term.children, List.map_cons, List.map_nil, spot_of_readsTerm h₁, spot_of_readsTerm h₂]
    · simp [place]
      omega
  | atom => exact ⟨_, [], rfl, rfl, List.pairwise_singleton _ _⟩

lemma SpotsRise.relocate {t : Lexical.Term} {f : Nat → Nat} {n : Nat} (hf : ∀ {k l}, k < l → l < n → f k < f l)
    (hn : ∀ u ∈ t.subterms, ∀ k, u.spot = some k → k < n) (h : SpotsRise t) : SpotsRise (t.relocate f) := by
  obtain ⟨i, is, hi, his, hrise⟩ := h
  have hlt : ∀ j ∈ i :: is, j < n := by
    intro j hj
    rcases List.mem_cons.1 hj with rfl | hj
    · exact hn t (Term.mem_subterms_self t) j hi
    · have hmem : some j ∈ t.children.map Term.spot := his ▸ List.mem_map_of_mem hj
      obtain ⟨u, hu, huj⟩ := List.mem_map.1 hmem
      exact hn u (Term.mem_subterms_of_mem_children hu) j huj
  refine ⟨f i, is.map f, ?_, ?_, ?_⟩
  · rw [Term.spot_relocate, hi, Option.map_some]
  · have hmap := congrArg (List.map (Option.map f)) his
    simpa only [List.map_map, Term.children_relocate, Function.comp_def, Term.spot_relocate, Option.map_some] using hmap
  · rw [← List.map_cons, List.pairwise_map]
    exact hrise.imp_of_mem fun _ hb hab => hf hab (hlt _ hb)

lemma place_lt_of_readsTerm {cs rest : Text} {t : Lexical.Term} (hcs : cs.length ≤ stop)
    (h : ReadsTerm d stop cs t rest) : place stop (skip d cs) < stop := by
  have hlt := length_lt_of_readsTerm h
  have hskip := length_skip_le d cs
  rw [place]
  omega

lemma prefix_of_termEnds {n : Node} (h : TermEnds d chars front n) : front <+: chars := by
  have hbefore : ∀ {s}, TermEnds.before d chars front s → front <+: chars := by
    rintro s ⟨before, behind, rfl, -, rfl⟩
    rw [List.append_assoc]
    exact (prefix_skipBack before).trans (List.prefix_append _ _)
  cases n with
  | term t => exact (h : front = skipBack d chars) ▸ prefix_skipBack chars
  | sentence s => exact hbefore h
  | task k => exact hbefore h

lemma place_of_readsClause {inner : Text} {c : Clause} (h : ReadsClause d inner stop c) :
    c.term.spot = some c.place := by
  cases h with
  | intro _ _ hw =>
    obtain ⟨rest, ht, -⟩ := hw
    rw [spot_of_readsTerm ht]
    exact congrArg (fun cs => some (place _ cs)) (List.dropWhile_idempotent _ _)

def SpotExact (d : Dialect) (text : Text) : Node → Prop
  | .term t => StandsAtSpot d text t ∧ SpotsRise t
  | .sentence s => s.spot = s.term.spot
  | .task k => ∃ i, k.spot = some i ∧ text.findIdx? (fun c => !d.spacing.isSpace c) = some i

lemma findIdx?_of_nthAt {i : Nat} (h : NthAt d text 0 i) :
    text.findIdx? (fun c => !d.spacing.isSpace c) = some i := by
  obtain ⟨a, c, b, rfl, hc, ha, rfl⟩ := h
  have hnone : a.findIdx? (fun c => !d.spacing.isSpace c) = none := by
    rw [List.findIdx?_eq_none_iff]
    intro x hx
    simpa using List.filter_eq_nil_iff.1 (List.eq_nil_of_length_eq_zero ha) x hx
  rw [List.findIdx?_append, hnone, List.findIdx?_cons, hc]
  simp

section

variable (hs : d.spacing.strip = true)

include hs

lemma nthAt_of_readHead {region whole inner : Text} {head : Head} (hne : nonblank d text ≠ [])
    (h : readHead d Prod.mk region whole
      ((nonblank d text).length - (skip d (nonblank d text)).length) = .ok (some (head, inner))) :
    NthAt d text 0 ((Source.ofText d text).locate head.place) := by
  rw [place_of_readHead h, skip_eq_self fun c => not_isSpace_of_mem_nonblank, Nat.sub_self]
  exact nthAt_locate hs (List.length_pos_iff.2 hne)

variable (ht : d.spacing.betweenTerms.all d.spacing.isSpace) {cs rest : Text} {t : Lexical.Term}
  (hfront : front <+: nonblank d text) (hcs : cs <:+ front) (h : ReadsTerm d front.length cs t rest)

include ht hfront hcs h

lemma standsAtSpot_relocate : StandsAtSpot d text (t.relocate (Source.ofText d text).locate) := by
  have hskip := (skip_suffix (d := d) cs).trans hcs
  have hlt := (place_lt_of_readsTerm hcs.length_le h).trans_le hfront.length_le
  have hat := nthAt_locate hs hlt
  refine ⟨_, by rw [Term.spot_relocate, spot_of_readsTerm h, Option.map_some], hat.getElem?, ?_⟩
  rw [hat.nonblank_drop, ← Term.write_shape, Term.shape_relocate, Term.write_shape]
  have hwrite : nonblank d (t.write d) <+: nonblank d (skip d cs) := by
    rw [nonblank_skip, nonblank_of_readsTerm ht h]
    exact List.prefix_append _ _
  have hself : nonblank d (skip d cs) = skip d cs :=
    nonblank_eq_self fun c hc => not_isSpace_of_mem_nonblank (hfront.subset (hskip.subset hc))
  rw [hself, List.suffix_iff_eq_drop.1 hskip] at hwrite
  exact hwrite.trans (hfront.drop _)

lemma spotExact_of_mem_subterms {u : Lexical.Term} (hu : u ∈ t.subterms) :
    SpotExact d text (.term (u.relocate (Source.ofText d text).locate)) := by
  obtain ⟨cs', rest', hcs', h'⟩ := exists_readsTerm_of_mem_subterms h hu
  have hsuffix := hcs'.trans hcs
  refine ⟨standsAtSpot_relocate hs ht hfront hsuffix h',
    (spotsRise_of_readsTerm hsuffix.length_le h').relocate (locate_lt hs) ?_⟩
  intro v hv k hk
  obtain ⟨cs'', rest'', hcs'', h''⟩ := exists_readsTerm_of_mem_subterms h' hv
  rw [spot_of_readsTerm h''] at hk
  cases hk
  exact (place_lt_of_readsTerm (hcs''.trans hsuffix).length_le h'').trans_le hfront.length_le

end

/-- Where blanks mean nothing, and nothing else is written around a copula, every spot is exact. -/
theorem readLexical_spots (hs : d.spacing.strip = true) (ht : d.spacing.betweenTerms.all d.spacing.isSpace)
    {n : Node} (h : readLexical d text = .ok n) : ∀ m ∈ Node.parts n, SpotExact d text m := by
  obtain ⟨p, hp, rfl⟩ := exists_readsText_of_readLexical h
  rw [nonblank_ofText hs] at hp
  obtain ⟨front, cs, hends, hcs, rest, hterm, -⟩ := exists_readsWhole_of_readsText hp
  have hexact : ∀ u ∈ (Node.subject (node p)).subterms,
      SpotExact d text (.term (u.relocate (Source.ofText d text).locate)) :=
    fun u => spotExact_of_mem_subterms hs ht (prefix_of_termEnds hends) hcs hterm
  have hclause : ∀ {inner stop c}, ReadsClause d inner stop c →
      SpotExact d text (.sentence (c.sentence.relocate (Source.ofText d text).locate)) := by
    intro inner stop c hc
    exact (congrArg (Option.map _) (place_of_readsClause hc)).symm.trans (Term.spot_relocate _ _).symm
  have hne : nonblank d text ≠ [] := fun he => hp.1 (by rw [he]; rfl)
  rw [Node.parts_relocate, List.forall_mem_map]
  intro m hm
  cases hp.2 with
  | term =>
    obtain ⟨u, hu, rfl⟩ := List.mem_map.1 hm
    exact hexact u hu
  | sentence _ hc =>
    rcases List.mem_cons.1 hm with rfl | hm
    · exact hclause hc
    obtain ⟨u, hu, rfl⟩ := List.mem_map.1 hm
    exact hexact u hu
  | task hh hc =>
    rcases List.mem_cons.1 hm with rfl | hm
    · exact ⟨_, rfl, findIdx?_of_nthAt (nthAt_of_readHead hs hne hh)⟩
    rcases List.mem_cons.1 hm with rfl | hm
    · exact hclause hc
    obtain ⟨u, hu, rfl⟩ := List.mem_map.1 hm
    exact hexact u hu

theorem spacedTask_readLexical_spots :
    ∃ n, readLexical .ascii " $0.5$ <(*, A, [B]) --> c> ." = .ok n ∧
      ∀ m ∈ Node.parts n, SpotExact .ascii " $0.5$ <(*, A, [B]) --> c> ." m := by
  have hsome : (readLexical .ascii " $0.5$ <(*, A, [B]) --> c> .").toOption.isSome = true := by decide +kernel
  obtain ⟨n, h⟩ := Outcome.exists_of_toOption_isSome hsome
  exact ⟨n, h, readLexical_spots rfl (by decide) h⟩

end NarseseDialects.Reading
