import NarseseDialects.Proofs.Lexical.Neighbours
import NarseseDialects.Proofs.Reading.NameEnds

namespace NarseseDialects

def Lexical.anyName (_ : AtomRole) (n : Text) : Bool := n.all Text.isNameChar

namespace Reading

open Lexical

variable {d : Dialect} {r : AtomRole} {n e x : Text}

def Plain (d : Dialect) (p n : Text) : Prop :=
  p = [] → ∀ r, d.sigils.literal r ≠ [] → Text.after? (d.sigils.literal r) n = none

lemma opening?_of_isIdentifier {l : Text} (hl : l.head?.any (!d.isIdentifier ·) = true) {c : Char}
    (h : d.isIdentifier c = true) (x : Text) : opening? l (c :: x) = none := by
  apply opening?_of_head
  intro hlc
  simp [hlc, h] at hl

structure Stands (d : Dialect) (p n e : Text) : Prop where
  plain : Plain d p n
  stopsAt : StopsAt d n e

def Ends (d : Dialect) (e : Text) : Prop := e = [] ∨ e ∈ d.terminating

mutual

lemma eachAtom_of_spelled {t : Lexical.Term} (ht : t.Spelled d anyName) {e : Text} (he : Ends d e) :
    t.EachAtom d (fun _ n e => n.all Text.isNameChar = true ∧ Ends d e) e := by
  cases t with
  | atom p n _ =>
    obtain ⟨r, -, hn, -⟩ := ht
    exact ⟨hn, he⟩
  | compound c ts _ => exact eachAtomAll_of_spelled ht.2.2 (by simp [Dialect.closers])
  | set l ts r _ =>
    obtain ⟨⟨s, -, rfl⟩, -, hts⟩ := ht
    exact eachAtomAll_of_spelled hts (by simp [Dialect.closers, SetBrackets.rights, Role.mem_members])
  | statement c t u _ =>
    obtain ⟨⟨k, rfl⟩, h₁, h₂⟩ := ht
    exact ⟨eachAtom_of_spelled h₁ (.inr (List.mem_append_left _ (Vocabulary.literal_mem _ k))),
      eachAtom_of_spelled h₂ (.inr (by simp [Dialect.Parts.terminating]))⟩

lemma eachAtomAll_of_spelled {ts : List Lexical.Term} (hts : Term.SpelledAll d anyName ts) {right : Text}
    (hright : right ∈ d.closers) :
    Term.EachAtomAll d (fun _ n e => n.all Text.isNameChar = true ∧ Ends d e) right ts := by
  match ts, hts with
  | [], _ => trivial
  | [t], hts => exact eachAtom_of_spelled hts.1 (.inr (mem_terminating_of_mem_closers hright))
  | t :: u :: us, hts =>
    exact ⟨eachAtom_of_spelled hts.1 (.inr (by simp [Dialect.Parts.terminating])),
      eachAtomAll_of_spelled hts.2 hright⟩

end

section

variable (hd : d.ClearTerms) (hc : d.ClearCuts)

include hc

lemma after?_sigil_of_plain (hn : n.all d.isIdentifier = true) (hp : Plain d [] n) (hne : n ≠ [])
    (he : e = [] ∨ e ∈ d.terminating) (hx : After e x) (hr : d.sigils.literal r ≠ []) :
    Text.after? (d.sigils.literal r) (n ++ x) = none := by
  rw [Option.eq_none_iff_forall_ne_some]
  intro y hy
  rcases Text.exists_of_after?_append hy with ⟨z, rfl, -⟩ | ⟨b, hb, hr', rfl⟩
  · have := hp rfl r hr
    rw [Text.after?_append] at this
    cases this
  · obtain ⟨s, hs, hnil⟩ := hx
    rcases he with rfl | he
    · rw [hnil rfl, List.append_nil, List.append_eq_nil_iff] at hs
      exact hb hs.1
    · have hap := hc.sigil_cut r (n, b) (hr' ▸ Text.mem_cuts hne hb) hn e he
      rw [Text.not_apart_of_append_eq hs] at hap
      cases hap

include hd

omit hc in
lemma after_of_before (he : e ∈ d.terminating) (h : Before e x) : After e x := by
  obtain ⟨y, rfl⟩ := h
  exact after_append (hd.joint e (mem_joints_of_mem_terminating he)).1 y

lemma opens_of_plain (hn : n.all d.isIdentifier = true) (hne : n = [] → r = .placeholder)
    (hp : Plain d (d.sigils.literal r) n) (he : e = [] ∨ e ∈ d.terminating) (hx : After e x) :
    Opens d (.sigil r) (d.sigils.literal r ++ (n ++ x)) := by
  by_cases hr : r = .name .word
  · subst hr
    rw [d.word_sigil] at hp
    have hnn : n ≠ [] := fun h => by cases hne h
    have hsig := fun r => after?_sigil_of_plain hc hn hp hnn he hx (r := r)
    obtain ⟨c, n, rfl⟩ := List.exists_cons_of_ne_nil hnn
    have hi : d.isIdentifier c = true := List.all_eq_true.1 hn c List.mem_cons_self
    rw [d.word_sigil, List.nil_append]
    refine ⟨⟨c, n ++ x, rfl, ?_⟩, fun b _ => ?_, fun e he => ?_⟩
    · cases hs : d.spacing.isSpace c with
      | false => rfl
      | true =>
        rw [hc.blank c hs] at hi
        cases hi
    · rcases hc.bracket b with hb | hb
      · obtain ⟨r, -, rfl⟩ := List.mem_map.1 hb
        by_cases hl : d.sigils.literal r = []
        · exact .inl hl
        · exact .inr (hsig r hl)
      · have ho := opening?_of_isIdentifier hb hi (n ++ x)
        cases hl : b.literal d with
        | nil => exact .inl rfl
        | cons y l =>
          rw [hl] at ho
          exact .inr ho
    · exact opening?_of_isIdentifier (hc.group e (List.mem_cons_of_mem _ he)) hi (n ++ x)
  · exact opens_literal hd (a := .sigil r) (by simpa using hr) _

variable (hq : d.isIdentifier = Text.isNameChar)

include hq

lemma atomStands_of_stands (hn : anyName r n = true) (hne : n = [] → r = .placeholder)
    (h : Stands d (d.sigils.literal r) n e) (he : e = [] ∨ e ∈ d.terminating) (hx : After e x) :
    AtomStands d r n x :=
  ⟨opens_of_plain hd hc (hq ▸ hn) hne h.plain he hx, h.stopsAt x hx⟩

end

mutual

lemma settled_of_stands (hd : d.ClearTerms) (hc : d.ClearCuts) (hq : d.isIdentifier = Text.isNameChar)
    {t : Lexical.Term} {e : Text} (ht : t.Spelled d anyName) (he : e = [] ∨ e ∈ d.terminating)
    (h : t.EachAtom d (Stands d) e) {behind : Text → Prop} (hb : ∀ x, behind x → After e x) :
    Settled d [] behind t := by
  cases t with
  | atom p n _ =>
    obtain ⟨r, rfl, hf, hne⟩ := ht
    exact ⟨r, rfl, hne, fun x hx => atomStands_of_stands hd hc hq hf hne h he (hb x hx)⟩
  | compound c ts _ =>
    obtain ⟨hk, hne, hts⟩ := ht
    exact ⟨hk, hne, settledAll_of_stands hd hc hq hts (by simp [Dialect.closers]) h⟩
  | set l ts r _ =>
    obtain ⟨⟨s, hl, rfl⟩, hne, hts⟩ := ht
    refine ⟨⟨s, hl, rfl⟩, hne, settledAll_of_stands hd hc hq hts ?_ h⟩
    simp [Dialect.closers, SetBrackets.rights, Role.mem_members]
  | statement c t u _ =>
    obtain ⟨⟨k, rfl⟩, h₁, h₂⟩ := ht
    have hk : d.copulas.literal k ∈ d.terminating := by
      simp [Dialect.Parts.terminating, Vocabulary.literal_mem]
    have hr : d.statement.right ∈ d.terminating := by simp [Dialect.Parts.terminating]
    exact ⟨⟨k, rfl⟩, settled_of_stands hd hc hq h₁ (.inr hk) h.1 fun x => after_of_before hd hk,
      settled_of_stands hd hc hq h₂ (.inr hr) h.2 fun x => after_of_before hd hr⟩

lemma settledAll_of_stands (hd : d.ClearTerms) (hc : d.ClearCuts) (hq : d.isIdentifier = Text.isNameChar)
    {ts : List Lexical.Term} (hts : Lexical.Term.SpelledAll d anyName ts) {right : Text}
    (hright : right ∈ d.closers) (h : Lexical.Term.EachAtomAll d (Stands d) right ts) :
    SettledAll d [] right ts := by
  match ts, hts, h with
  | [], _, _ => trivial
  | [t], hts, h =>
    have hr := mem_terminating_of_mem_closers hright
    exact settled_of_stands hd hc hq hts.1 (.inr hr) h fun x => after_of_before hd hr
  | t :: u :: us, hts, h =>
    have hs : d.separator ∈ d.terminating := by simp [Dialect.Parts.terminating]
    exact ⟨settled_of_stands hd hc hq hts.1 (.inr hs) h.1 fun x => after_of_before hd hs,
      settledAll_of_stands hd hc hq hts.2 hright h.2⟩

end

end Reading

end NarseseDialects
