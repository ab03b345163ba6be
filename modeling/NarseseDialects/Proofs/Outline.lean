import NarseseDialects.Outline
import NarseseDialects.Proofs.Term.Atoms
import NarseseDialects.Proofs.Text.Quoted
import NarseseDialects.Proofs.Unambiguous
import NarseseDialects.Proofs.Value.Display

/-! A picture of a value loses nothing. The first word of a line tells what the line stands for, and the lines
that are indented further than a line, up to the next one that is not, stand for its parts. -/

namespace NarseseDialects.Outline

open Text

inductive Heading where
  | kind (kind : Kind)
  | punctuation (punctuation : Punctuation)
  | task

def setsOff (c : Char) : Bool := c = ' ' || c = ','

namespace Heading

variable {g h : Heading}

def text : Heading → Text
  | kind k => k.display
  | punctuation p => p.display
  | task => "Task"

def all : List Heading := Kind.all.map kind ++ (Role.members : List Punctuation).map punctuation ++ [task]

lemma mem_all (h : Heading) : h ∈ all := by
  cases h with
  | kind k => simp [all, k.mem_all]
  | punctuation p => simp [all, Role.mem_members p]
  | task => simp [all]

lemma texts_plain :
    (all.map text).Nodup ∧ ∀ t ∈ all.map text, t ≠ [] ∧ t.all (!setsOff ·) = true ∧ '\n' ∉ t := by
  decide +kernel

lemma text_injective (e : g.text = h.text) : g = h :=
  List.inj_on_of_nodup_map texts_plain.1 g.mem_all h.mem_all e

lemma text_plain (h : Heading) : h.text ≠ [] ∧ h.text.all (!setsOff ·) = true ∧ '\n' ∉ h.text :=
  texts_plain.2 _ (List.mem_map_of_mem h.mem_all)

end Heading

def line (depth : Nat) (g : Heading) (detail : Text) : Text := indent depth ++ (g.text ++ detail)

section

variable {d e : Nat} {g k : Heading} {x y : Text}

lemma indent_cancel (h : line d g x = line e k y) : d = e ∧ g.text ++ x = k.text ++ y := by
  have hspace : ∀ d, (indent d).all (fun c => decide (c = ' ')) = true := by simp [indent]
  have hhead : ∀ (g : Heading) (x : Text), (g.text ++ x).head?.all (fun c => !decide (c = ' ')) = true := by
    intro g x
    obtain ⟨hne, hplain, -⟩ := g.text_plain
    obtain ⟨c, cs, hc⟩ := List.exists_cons_of_ne_nil hne
    rw [hc, List.all_cons, Bool.and_eq_true] at hplain
    rw [hc]
    have hc : ¬c = ' ' ∧ ¬c = ',' := by simpa [setsOff] using hplain.1
    simpa using hc.1
  obtain ⟨hindent, hrest⟩ := run_append_cancel (hspace d) (hspace e) (hhead g x) (hhead k y) h
  have hlength := congrArg List.length hindent
  simp only [indent, List.length_replicate] at hlength
  exact ⟨by omega, hrest⟩

lemma line_cancel (hx : x.head?.all setsOff = true) (hy : y.head?.all setsOff = true) (h : line d g x = line e k y) :
    d = e ∧ g = k ∧ x = y := by
  obtain ⟨hd, hrest⟩ := indent_cancel h
  have hoff : ∀ x : Text, x.head?.all setsOff = true → x.head?.all (fun c => !!setsOff c) = true := by simp
  obtain ⟨htext, hdetail⟩ := run_append_cancel g.text_plain.2.1 k.text_plain.2.1 (hoff x hx) (hoff y hy) hrest
  exact ⟨hd, Heading.text_injective htext, hdetail⟩

lemma line_ne_nil : line d g x ≠ [] := by
  have := g.text_plain.1
  simp [line, this]

lemma newline_notMem_line (hx : '\n' ∉ x) : '\n' ∉ line d g x := by
  have := g.text_plain.2.2
  simp [line, indent, this, hx]

end

def detail : Term → Text
  | .named _ n => ' ' :: quoted n
  | .interval n => ' ' :: ofNat n
  | .image _ i _ => ", placeholder at " ++ ofNat i
  | _ => []

section

variable {t u : Term} {d : Nat}

lemma setsOff_detail (t : Term) : (detail t).head?.all setsOff = true := by
  cases t <;> rfl

lemma newline_notMem {x : Text} (h : ∀ c ∈ x, isBlank c = false) : '\n' ∉ x := by
  have hblank : isBlank '\n' = true := by decide
  intro hm
  rw [h _ hm] at hblank
  cases hblank

lemma newline_notMem_ofNat (n : Nat) : '\n' ∉ ofNat n := newline_notMem Typeset.isBlank_of_mem_ofNat

lemma newline_notMem_detail (t : Term) : '\n' ∉ detail t := by
  have himage : '\n' ∉ ", placeholder at ".toList := by decide
  cases t with
  | named k n => exact List.not_mem_cons_of_ne_of_not_mem (by decide) (newline_notMem_quoted n)
  | interval n => exact List.not_mem_cons_of_ne_of_not_mem (by decide) (newline_notMem_ofNat n)
  | image s i cs => exact fun h => (List.mem_append.1 h).elim himage (newline_notMem_ofNat i)
  | _ => exact List.not_mem_nil

lemma detail_injective (hk : t.kind = u.kind) (h : detail t = detail u) : t.name = u.name ∧ t.gap? = u.gap? := by
  cases t <;> cases u <;> cases hk
  case named.named.refl => exact ⟨quoted_injective (List.cons.inj h).2, rfl⟩
  case interval.interval.refl => exact ⟨(List.cons.inj h).2, rfl⟩
  case image.image.refl => exact ⟨rfl, congrArg some (ofNat_injective (List.append_cancel_left h))⟩
  all_goals exact ⟨rfl, rfl⟩

lemma terms_eq_flatMap (d : Nat) (ts : List Term) : terms d ts = ts.flatMap (term d) := by
  induction ts with
  | nil => rfl
  | cons t ts ih => rw [terms, ih, List.flatMap_cons]

lemma term_eq (d : Nat) (t : Term) : term d t = line d (.kind t.kind) (detail t) :: terms (d + 1) t.components := by
  have hplain : ∀ k : Kind, indent d ++ k.display = line d (.kind k) [] := by
    intro k
    rw [line, List.append_nil]
    rfl
  have hdetail : ∀ (k : Kind) (x y : Text), indent d ++ k.display ++ x ++ y = line d (.kind k) (x ++ y) := by
    intro k x y
    rw [List.append_assoc, List.append_assoc]
    rfl
  have hone : ∀ e a, terms e [a] = term e a := by simp [terms]
  have htwo : ∀ e a b, terms e [a, b] = term e a ++ term e b := by simp [terms]
  cases t with
  | named | interval | image =>
    rw [term, hdetail]
    rfl
  | placeholder | collection | chain =>
    rw [term, hplain]
    rfl
  | negation a =>
    rw [term, hplain, ← hone]
    rfl
  | difference | ordered | symmetric =>
    rw [term, hplain, List.cons_append, ← htwo]
    rfl

end

/-- Whether the first of some lines, if there is one, is indented no further than the depth. -/
def Shallow (depth : Nat) (ls : List Text) : Prop := ∀ l ∈ ls.head?, ∃ e ≤ depth, ∃ g x, l = line e g x

section

variable {t u : Term} {ts us : List Term} {d e : Nat} {r s : List Text}

lemma Shallow.mono (h : Shallow d r) (hd : d ≤ e) : Shallow e r := by
  intro l hl
  obtain ⟨k, hk, g, x, rfl⟩ := h l hl
  exact ⟨k, Nat.le_trans hk hd, g, x, rfl⟩

lemma shallow_terms (h : Shallow d r) : Shallow (d + 1) (terms (d + 1) ts ++ r) := by
  cases ts with
  | nil => exact h.mono (Nat.le_succ d)
  | cons t ts =>
    rw [terms, term_eq]
    rintro l ⟨⟩
    exact ⟨d + 1, Nat.le_refl _, _, _, rfl⟩

lemma Shallow.ne_terms (h : Shallow d r) : r ≠ terms (d + 1) (t :: ts) ++ s := by
  rintro rfl
  rw [terms, term_eq] at h
  obtain ⟨e, he, g, x, hline⟩ := h _ rfl
  have := (indent_cancel hline).1
  omega

/-- Whether the lines of a term are told from whatever follows them without being indented further. -/
def Cancels (t : Term) : Prop :=
  ∀ d u r s, Shallow d r → Shallow d s → term d t ++ r = term d u ++ s → t = u ∧ r = s

lemma terms_cancel (hts : ∀ t ∈ ts, Cancels t) (hr : Shallow d r) (hs : Shallow d s)
    (h : terms (d + 1) ts ++ r = terms (d + 1) us ++ s) : ts = us ∧ r = s := by
  induction ts generalizing us with
  | nil =>
    cases us with
    | nil => exact ⟨rfl, h⟩
    | cons u us => exact absurd h hr.ne_terms
  | cons t ts ih =>
    cases us with
    | nil => exact absurd h.symm hs.ne_terms
    | cons u us =>
      rw [terms, terms, List.append_assoc, List.append_assoc] at h
      obtain ⟨rfl, hrest⟩ := hts t List.mem_cons_self _ u _ _ (shallow_terms hr) (shallow_terms hs) h
      obtain ⟨rfl, hrs⟩ := ih (fun t ht => hts t (List.mem_cons_of_mem _ ht)) hrest
      exact ⟨rfl, hrs⟩

lemma cancels (t : Term) : Cancels t := by
  induction t using Term.byComponents with
  | h t ih =>
    intro d u r s hr hs h
    rw [term_eq, term_eq] at h
    obtain ⟨hline, hrest⟩ := List.cons.inj h
    obtain ⟨-, hkind, hdetail⟩ := line_cancel (setsOff_detail t) (setsOff_detail u) hline
    obtain ⟨hname, hgap⟩ := detail_injective (Heading.kind.inj hkind) hdetail
    -- What follows is indented no further than the line itself, so that it is taken for no part of the term.
    obtain ⟨hcomponents, hrs⟩ := terms_cancel ih hr hs hrest
    exact ⟨Term.eq_of_components (Heading.kind.inj hkind) hname hgap hcomponents, hrs⟩

lemma term_injective (h : term d t = term d u) : t = u := by
  have hnil : Shallow d [] := by simp [Shallow]
  exact (cancels t d u [] [] hnil hnil (congrArg (· ++ []) h)).1

end

def sentenceDetail (stamp : Text) (m : Mood) : Text := ' ' :: (stamp ++ ' ' :: m.displayTruth)

def taskDetail (k : Task) : Text := ' ' :: k.budget.display

section

variable {a b : Sentence} {k l : Task} {d : Nat} {r s : List Text}

lemma exists_of_sentence (h : sentence? d a = some r) :
    ∃ stamp, a.stamp.display? = some stamp ∧
      line d (.punctuation a.mood.punctuation) (sentenceDetail stamp a.mood) :: term (d + 1) a.term = r := by
  obtain ⟨stamp, hstamp, rfl⟩ := Option.map_eq_some_iff.1 h
  exact ⟨stamp, hstamp, by simp [line, sentenceDetail, Heading.text]⟩

lemma exists_of_task (h : task? d k = some r) :
    ∃ ls, sentence? (d + 1) k.sentence = some ls ∧ line d .task (taskDetail k) :: ls = r := by
  obtain ⟨ls, hls, rfl⟩ := Option.map_eq_some_iff.1 h
  exact ⟨ls, hls, by simp [line, taskDetail, Heading.text]⟩

lemma sentenceDetail_injective (hp : a.mood.punctuation = b.mood.punctuation) {x y : Text}
    (hx : a.stamp.display? = some x) (hy : b.stamp.display? = some y)
    (h : sentenceDetail x a.mood = sentenceDetail y b.mood) : a.stamp = b.stamp ∧ a.mood = b.mood := by
  have hplain : ∀ {c : Stamp} {x : Text}, c.display? = some x → x.all (fun c => decide (c ≠ ' ')) = true := by
    intro c x hx
    simpa using fun e he => (Stamp.mem_display hx he).1
  obtain ⟨rfl, htruths⟩ := run_append_cancel (hplain hx) (hplain hy) rfl rfl (List.cons.inj h).2
  exact ⟨Stamp.display_injective hx hy, Mood.displayTruth_injective hp (List.cons.inj htruths).2⟩

lemma sentence_injective (ha : sentence? d a = some r) (hb : sentence? d b = some r) : a = b := by
  obtain ⟨x, hx, rfl⟩ := exists_of_sentence ha
  obtain ⟨y, hy, h⟩ := exists_of_sentence hb
  obtain ⟨hline, hterm⟩ := List.cons.inj h
  obtain ⟨-, hp, hdetail⟩ := line_cancel rfl rfl hline
  have hp := Heading.punctuation.inj hp
  obtain ⟨hstamp, hmood⟩ := sentenceDetail_injective hp.symm hx hy hdetail.symm
  have hterm := term_injective hterm
  cases a
  cases b
  cases hstamp
  cases hmood
  cases hterm
  rfl

lemma task_injective (hk : task? d k = some r) (hl : task? d l = some r) : k = l := by
  obtain ⟨ls, hls, rfl⟩ := exists_of_task hk
  obtain ⟨ms, hms, h⟩ := exists_of_task hl
  obtain ⟨hline, rfl⟩ := List.cons.inj h
  obtain ⟨-, -, hdetail⟩ := line_cancel rfl rfl hline
  have hbudget := Measure.display_injective (List.cons.inj hdetail).2
  have hsentence := sentence_injective hms hls
  cases k
  cases l
  cases hbudget
  cases hsentence
  rfl

end

def heading : Value → Heading :=
  Item.elim (fun t => .kind t.kind) (fun a => .punctuation a.mood.punctuation) fun _ => .task

lemma exists_lines_eq {v : Value} {ls : List Text} (h : lines? v = some ls) :
    ∃ x ms, ls = line 0 (heading v) x :: ms ∧ x.head?.all setsOff = true := by
  cases v with
  | term t =>
    cases h
    exact ⟨_, _, term_eq 0 t, setsOff_detail t⟩
  | sentence a =>
    obtain ⟨x, -, rfl⟩ := exists_of_sentence h
    exact ⟨_, _, rfl, rfl⟩
  | task k =>
    obtain ⟨ms, -, rfl⟩ := exists_of_task h
    exact ⟨_, _, rfl, rfl⟩

lemma lines_injective {x y : Value} {ls : List Text} (hx : lines? x = some ls) (hy : lines? y = some ls) : x = y := by
  obtain ⟨p, ms, hls, hp⟩ := exists_lines_eq hx
  obtain ⟨q, ns, hls', hq⟩ := exists_lines_eq hy
  have hheading : heading x = heading y := by
    rw [hls] at hls'
    exact (line_cancel hp hq (List.cons.inj hls').1).2.1
  cases x with
  | term t =>
    cases y with
    | term u => exact congrArg Item.term (term_injective (Option.some.inj (hx.trans hy.symm)))
    | _ => cases hheading
  | sentence a =>
    cases y with
    | sentence b => exact congrArg Item.sentence (sentence_injective hx hy)
    | _ => cases hheading
  | task k =>
    cases y with
    | task l => exact congrArg Item.task (task_injective hx hy)
    | _ => cases hheading

def OneLine (l : Text) : Prop := l ≠ [] ∧ '\n' ∉ l

section

variable {t : Term} {d : Nat} {l : Text}

lemma oneLine_line {g : Heading} {x : Text} (hx : '\n' ∉ x) : OneLine (line d g x) :=
  ⟨line_ne_nil, newline_notMem_line hx⟩

lemma oneLine_of_mem_term (h : l ∈ term d t) : OneLine l := by
  induction t using Term.byComponents generalizing d with
  | h t ih =>
    rw [term_eq, terms_eq_flatMap, List.mem_cons, List.mem_flatMap] at h
    rcases h with rfl | ⟨c, hc, h⟩
    · exact oneLine_line (newline_notMem_detail t)
    · exact ih c hc h

lemma oneLine_of_mem_sentence {a : Sentence} {ls : List Text} (ha : sentence? d a = some ls) (h : l ∈ ls) :
    OneLine l := by
  obtain ⟨stamp, hstamp, rfl⟩ := exists_of_sentence ha
  rcases List.mem_cons.1 h with rfl | h
  · apply oneLine_line
    have hplain : '\n' ∉ stamp := fun h => (Stamp.mem_display hstamp h).2 rfl
    simp [sentenceDetail, hplain, a.mood.newline_notMem_displayTruth]
  · exact oneLine_of_mem_term h

lemma oneLine_of_mem_task {k : Task} {ls : List Text} (hk : task? d k = some ls) (h : l ∈ ls) : OneLine l := by
  obtain ⟨ms, hms, rfl⟩ := exists_of_task hk
  rcases List.mem_cons.1 h with rfl | h
  · apply oneLine_line
    simp [taskDetail, k.budget.newline_notMem_display]
  · exact oneLine_of_mem_sentence hms h

lemma oneLine_of_mem_lines {v : Value} {ls : List Text} (hv : lines? v = some ls) (h : l ∈ ls) : OneLine l := by
  cases v with
  | term t =>
    cases hv
    exact oneLine_of_mem_term h
  | sentence a => exact oneLine_of_mem_sentence hv h
  | task k => exact oneLine_of_mem_task hv h

lemma newline_notMem_write {a : Term} (ha : a.isAtom = true) (hw : a.WellFormed) :
    '\n' ∉ a.textIn .ascii := by
  have hsigil : ∀ r, '\n' ∉ Dialect.ascii.sigils.literal r := by decide
  cases a with
  | named k n =>
    have hname := newline_notMem (Typeset.isBlank_of_mem_name hw.2)
    exact fun h => (List.mem_append.1 h).elim (hsigil (.name k)) hname
  | placeholder => decide
  | interval n => exact fun h => (List.mem_append.1 h).elim (hsigil .interval) (newline_notMem_ofNat n)
  | _ => cases ha

lemma oneLine_atomsLine (ht : t.WellFormed) : OneLine (atomsLine t) := by
  have hleft : "atoms: ".toList ≠ [] ∧ '\n' ∉ "atoms: ".toList := by decide
  have hsep : '\n' ∉ ", ".toList := by decide
  refine ⟨List.append_ne_nil_of_left_ne_nil hleft.1 _, fun h => ?_⟩
  rcases mem_join ((List.mem_append.1 h).resolve_left hleft.2) with hc | ⟨x, hx, hc⟩
  · exact hsep hc
  · obtain ⟨a, ha, rfl⟩ := List.mem_map.1 hx
    obtain ⟨hatom, u, hu, hpart⟩ := Term.mem_atomsOfAll_iff.1 (Term.mem_of_mem_firsts ha)
    obtain rfl := List.mem_singleton.1 hu
    exact newline_notMem_write hatom (Term.wellFormed_of_partOf ht hpart) hc

end

end NarseseDialects.Outline

namespace NarseseDialects.Value

open Outline

lemma oneLine_of_mem_outline {v : Value} (hv : v.WellFormed) {ls : List Text} (ho : v.outline? = some ls) {l : Text}
    (h : l ∈ ls) : OneLine l := by
  obtain ⟨ms, hms, rfl⟩ := Option.map_eq_some_iff.1 ho
  rcases List.mem_append.1 h with h | h
  · exact oneLine_of_mem_lines hms h
  · obtain rfl := List.mem_singleton.1 h
    exact oneLine_atomsLine hv

/-- Values with one picture are the same value, down to the order in which their parts are shown. -/
theorem outline_injective {x y : Value} (hx : x.Made) (hy : y.Made) {ls ms : List Text} (hls : x.outline? = some ls)
    (hms : y.outline? = some ms) (h : Text.join "\n" ls = Text.join "\n" ms) : x = y ∧ x.same y = true := by
  obtain rfl := Text.join_injective (fun _ => oneLine_of_mem_outline hx.wellFormed hls)
    (fun _ => oneLine_of_mem_outline hy.wellFormed hms) h
  obtain ⟨a, ha, rfl⟩ := Option.map_eq_some_iff.1 hls
  obtain ⟨b, hb, hab⟩ := Option.map_eq_some_iff.1 hms
  obtain rfl := (List.append_inj' hab rfl).1
  obtain rfl := lines_injective ha hb
  exact ⟨rfl, same_equivalence.refl x⟩

theorem imageGoal_outline_injective :
    let picture : Text := "Goal PAST Truth()\n  ImageExtension, placeholder at 1\n    Word 'a'\n    Word 'b'\natoms: a, b"
    imageGoal.Made ∧ imageGoal.outline?.map (Text.join "\n") = some picture ∧ imageGoal.same imageGoal = true := by
  intro picture
  have hpicture : imageGoal.outline?.map (Text.join "\n") = some picture := by decide +kernel
  obtain ⟨ls, hls, -⟩ := Option.map_eq_some_iff.1 hpicture
  exact ⟨made_imageGoal, hpicture, (outline_injective made_imageGoal made_imageGoal hls hls rfl).2⟩

example : let t : Value := .term (pair "a" "b")
    let u : Value := .term (pair "b" "a")
    t.same u = true ∧ t.outline? ≠ u.outline? := by
  decide +kernel

end NarseseDialects.Value
