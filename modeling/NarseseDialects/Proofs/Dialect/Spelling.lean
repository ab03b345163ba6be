import NarseseDialects.Proofs.Dialect.Literals
import NarseseDialects.Reading.Terms

namespace NarseseDialects

inductive Spelling where
  | ascii
  | latex
  | latexSpaced
  | han
  deriving DecidableEq

namespace Spelling

def dialect : Spelling → Dialect
  | ascii => .ascii
  | latex => .latex
  | latexSpaced => .latexSpaced
  | han => .han

def nameChar : Spelling → Char → Bool
  | han => Char.isAlphanum
  | _ => Text.isNameChar

/-- The names that an atom may have beside its sigil. On the plain keyboard the low line is a sigil, and
two hyphens may be the front of a copula. -/
def fits (s : Spelling) (r : AtomRole) (n : Text) : Bool :=
  n.all s.nameChar &&
    match s with
    | ascii => (Text.before? "--" n).isNone && (r != .name .word || n.head? != some '_')
    | _ => true

end Spelling

namespace Dialect

def Follows (d : Dialect) (rest : Text) : Prop :=
  rest = [] ∨ (∃ c r, rest = c :: r ∧ d.spacing.isSpace c = true) ∨
    ∃ e ∈ d.terminating, e ≠ [] ∧ ∃ r, rest = e ++ r

structure ClearChars (d : Dialect) (q : Char → Bool) (fits : AtomRole → Text → Bool) : Prop where
  all : ∀ {r n}, fits r n = true → n.all q = true
  not_isSpace : ∀ {c}, q c = true → d.spacing.isSpace c = false

structure ClearNames (d : Dialect) (q : Char → Bool) (fits : AtomRole → Text → Bool) : Prop extends
    ClearChars d q fits where
  nameSpan : ∀ {r n rest}, fits r n = true → d.Follows rest → Reading.nameSpan d (n ++ rest) = (n, rest)
  word : ∀ {c n}, fits (.name .word) (c :: n) = true →
    (∀ a : Opener, (a.literal d).head? ≠ some c) ∧ (∀ e ∈ d.closers, e.head? ≠ some c) ∧
      (d.numerals .budget).brackets.left.head? ≠ some c

end Dialect

namespace Reading

variable {d : Dialect}

lemma startsWithAny_of_mem {e : Text} (he : e ∈ d.terminating) (r : Text) :
    d.terminators.startsWithAny (e ++ r) = true := by
  rw [Lexicon.startsWithAny, Lexicon.front?, List.findSome?_isSome_iff]
  exact ⟨e, Dialect.mem_terminators.2 he, by simp⟩

lemma not_startsWithAny {cs : Text} (h : ∀ e ∈ d.terminating, Text.after? e cs = none) :
    d.terminators.startsWithAny cs = false := by
  rw [Lexicon.startsWithAny, Lexicon.front?, Option.isSome_eq_false_iff, Option.isNone_iff_eq_none,
    List.findSome?_eq_none_iff]
  intro e he
  rw [h e (Dialect.mem_terminators.1 he), Option.map_none]

lemma nameSpan_append_of_follows (hd : ∀ c, d.spacing.isSpace c = true → d.isIdentifier c = false)
    {n rest : Text} (hr : d.Follows rest) (hi : ∀ c ∈ n, d.isIdentifier c = true)
    (hn : ∀ b, b ≠ [] → b <:+ n → ∀ e ∈ d.terminating, Text.after? e (b ++ rest) = none) :
    nameSpan d (n ++ rest) = (n, rest) := by
  induction n with
  | nil =>
    rcases hr with rfl | ⟨c, r, rfl, hc⟩ | ⟨e, he, hne, r, rfl⟩
    · rfl
    · simp [nameSpan, hd c hc]
    · obtain ⟨c, e, rfl⟩ := List.exists_cons_of_ne_nil hne
      have hs := startsWithAny_of_mem he r
      rw [List.cons_append] at hs
      simp [nameSpan, hs]
  | cons c n ih =>
    have hs := not_startsWithAny (hn (c :: n) (by simp) List.suffix_rfl)
    have ih' := ih (fun x hx => hi x (List.mem_cons_of_mem c hx)) fun b hb hs e he =>
      hn b hb (hs.trans (List.suffix_cons c n)) e he
    rw [List.cons_append] at hs ⊢
    simp [nameSpan, hi c List.mem_cons_self, hs, ih']

lemma after?_suffix_of_head {q : Char → Bool} {n b e : Text} (hn : n.all q = true) (hb : b ≠ [])
    (hs : b <:+ n) (he : e.head?.any (!q ·) = true) (rest : Text) : Text.after? e (b ++ rest) = none := by
  obtain ⟨c, b, rfl⟩ := List.exists_cons_of_ne_nil hb
  cases e with
  | nil => cases he
  | cons x e =>
    have hc : q c = true := List.all_eq_true.1 hn c (hs.subset List.mem_cons_self)
    refine Text.after?_cons_of_ne ?_ e _
    rintro rfl
    simp [hc] at he

lemma after?_hyphens {q : Char → Bool} {n b rest : Text} {x : Char} (hn : n.all q = true)
    (he : Text.before? ['-', '-'] n = none) (hb : b ≠ []) (hs : b <:+ n) (hx : q x = false)
    (hr : Text.after? ['-', x] rest = none) : Text.after? ['-', '-', x] (b ++ rest) = none := by
  cases h : Text.after? ['-', '-', x] (b ++ rest) with
  | none => rfl
  | some r =>
    have hbr := Text.after?_eq_some_iff.1 h
    match b, hb, hbr with
    | [c], _, hbr =>
      simp only [List.cons_append, List.nil_append, List.cons.injEq] at hbr
      rw [hbr.2] at hr
      simp [Text.after?] at hr
    | [c₁, c₂], _, hbr =>
      simp only [List.cons_append, List.nil_append, List.cons.injEq] at hbr
      obtain ⟨rfl, rfl, -⟩ := hbr
      obtain ⟨a, rfl⟩ := hs
      rw [Text.before?_append] at he
      cases he
    | c₁ :: c₂ :: c₃ :: b, _, hbr =>
      simp only [List.cons_append, List.nil_append, List.cons.injEq] at hbr
      have hc := List.all_eq_true.1 hn c₃ (hs.subset (by simp))
      rw [hbr.2.2.1, hx] at hc
      cases hc

lemma after?_of_follows {x : Char} {rest : Text} (hd : d.spacing.isSpace '-' = false)
    (hx : ∀ e ∈ d.terminating, Text.apart e ['-', x] = true) (hr : d.Follows rest) :
    Text.after? ['-', x] rest = none := by
  rcases hr with rfl | ⟨c, r, rfl, hc⟩ | ⟨e, he, -, r, rfl⟩
  · rfl
  · refine Text.after?_cons_of_ne ?_ _ r
    rintro rfl
    rw [hd] at hc
    cases hc
  · exact Text.after?_of_apart (hx e he) r

end Reading

namespace Dialect

lemma clearNames_of_head {d : Dialect} {q : Char → Bool} {fits : AtomRole → Text → Bool}
    (hs : ∀ c, d.spacing.isSpace c = true → d.isIdentifier c = false)
    (hq : ∀ c, q c = true → d.isIdentifier c = true) (hf : ∀ {r n}, fits r n = true → n.all q = true)
    (ht : ∀ e ∈ d.terminating, e.head?.any (!q ·) = true)
    (ho : ∀ a : Opener, a.literal d = [] ∨ (a.literal d).head?.any (!q ·) = true)
    (hc : ∀ e ∈ d.closers, e.head?.any (!q ·) = true)
    (hb : (d.numerals .budget).brackets.left.head?.any (!q ·) = true) : d.ClearNames q fits where
  all := hf
  not_isSpace {c} h := by
    cases hc : d.spacing.isSpace c with
    | false => rfl
    | true =>
      rw [← hs c hc]
      exact (hq c h).symm
  nameSpan {r n rest} h hr := by
    refine Reading.nameSpan_append_of_follows hs hr (fun c hc => ?_) fun b hb hn e he => ?_
    · exact hq c (List.all_eq_true.1 (hf h) c hc)
    · exact Reading.after?_suffix_of_head (hf h) hb hn (ht e he) rest
  word {c n} h := by
    have hqc : q c = true := List.all_eq_true.1 (hf h) c List.mem_cons_self
    have hne : ∀ e : Text, e.head?.any (!q ·) = true → e.head? ≠ some c := by
      intro e he heq
      simp [heq, hqc] at he
    refine ⟨fun a => ?_, fun e he => hne e (hc e he), hne _ hb⟩
    rcases ho a with h | h
    · simp [h]
    · exact hne _ h

end Dialect

namespace Spelling

lemma clearNames_ascii : Dialect.ascii.ClearNames Text.isNameChar ascii.fits where
  all h := (Bool.and_eq_true_iff.1 h).1
  not_isSpace {c} h := by
    cases hb : Text.isBlank c with
    | false => exact hb
    | true =>
      rw [Text.not_isNameChar_of_isBlank hb] at h
      cases h
  nameSpan {r n rest} h hr := by
    simp only [fits, Bool.and_eq_true, Option.isNone_iff_eq_none] at h
    obtain ⟨hn, he, -⟩ := h
    refine Reading.nameSpan_append_of_follows (fun c => Text.not_isNameChar_of_isBlank) hr
      (fun c hc => List.all_eq_true.1 hn c hc) fun b hb hs e hm => ?_
    have ht : ∀ e ∈ Dialect.ascii.terminating, e.head?.any (!Text.isNameChar ·) = true ∨
        e = ['-', '-', '>'] ∨ e = ['-', '-', ']'] := by decide +kernel
    have hf : ∀ x, (∀ e ∈ Dialect.ascii.terminating, Text.apart e ['-', x] = true) →
        Text.after? ['-', x] rest = none :=
      fun x hx => Reading.after?_of_follows (by decide) hx hr
    rcases ht e hm with hh | rfl | rfl
    · exact Reading.after?_suffix_of_head hn hb hs hh rest
    · exact Reading.after?_hyphens hn he hb hs (by decide +kernel) (hf '>' (by decide +kernel))
    · exact Reading.after?_hyphens hn he hb hs (by decide +kernel) (hf ']' (by decide +kernel))
  word {c n} h := by
    simp only [fits, Bool.and_eq_true, List.all_cons, List.head?_cons, bne_self_eq_false,
      Bool.false_or, bne_iff_ne, ne_eq, Option.some.injEq] at h
    obtain ⟨⟨hc, -⟩, -, hu⟩ := h
    replace hc : Text.isNameChar c = true := hc
    have hne : ∀ e : Text, e.head?.all (fun x => x = '_' || !Text.isNameChar x) = true → e.head? ≠ some c := by
      intro e he heq
      simp [heq, hc, hu] at he
    refine ⟨fun a => hne _ ?_, fun e he => hne _ ?_, hne _ (by decide +kernel)⟩
    · revert a
      decide +kernel
    · revert e
      decide +kernel

lemma clearNames_latex (strip : Bool) {fits : AtomRole → Text → Bool}
    (hf : ∀ {r n}, fits r n = true → n.all Text.isNameChar = true) :
    (if strip then Dialect.latex else .latexSpaced).ClearNames Text.isNameChar fits := by
  cases strip with
  | true =>
    refine Dialect.clearNames_of_head (fun c => Text.not_isNameChar_of_isBlank) (fun c => id) hf ?_ ?_ ?_ ?_
    all_goals decide +kernel
  | false =>
    refine Dialect.clearNames_of_head (fun c => Text.not_isNameChar_of_isBlank) (fun c => id) hf ?_ ?_ ?_ ?_
    all_goals decide +kernel

lemma clearNames_han : Dialect.han.ClearNames Char.isAlphanum han.fits := by
  refine Dialect.clearNames_of_head (fun c => Text.not_isNameChar_of_isBlank)
    (fun c => Text.isNameChar_of_isAlphanum) (fun h => (Bool.and_eq_true_iff.1 h).1) ?_ ?_ ?_ ?_
  all_goals decide +kernel

lemma clearNames (s : Spelling) : s.dialect.ClearNames s.nameChar s.fits := by
  cases s with
  | ascii => exact clearNames_ascii
  | latex => exact clearNames_latex true fun h => (Bool.and_eq_true_iff.1 h).1
  | latexSpaced => exact clearNames_latex false fun h => (Bool.and_eq_true_iff.1 h).1
  | han => exact clearNames_han

lemma clearTerms (s : Spelling) : s.dialect.ClearTerms := by
  cases s with
  | ascii => exact Dialect.clearTerms_ascii
  | latex => exact Dialect.clearTerms_latex
  | latexSpaced => exact Dialect.clearTerms_latexSpaced
  | han => exact Dialect.clearTerms_han

end Spelling

end NarseseDialects
