import NarseseDialects.Lexicon
import NarseseDialects.Role

namespace NarseseDialects

structure Vocabulary (ρ : Type) [Role ρ] where
  literal : ρ → Text
  lexicon : Lexicon
  distinct : ((Role.members : List ρ).map literal).Nodup
  lexicon_eq : lexicon = .ofDistinct _ distinct

namespace Vocabulary

variable {ρ : Type} [Role ρ]

def literals (f : ρ → Text) : List Text := (Role.members : List ρ).map f

def ofDistinct (literal : ρ → Text) (h : (literals literal).Nodup) : Vocabulary ρ :=
  ⟨literal, .ofDistinct _ h, h, rfl⟩

/-- The vocabulary with the given literals, or the first literal that plays a second role. -/
def ofLiterals? (literal : ρ → Text) : Except Text (Vocabulary ρ) :=
  match h : Lexicon.repeated? [] (literals literal) with
  | some e => .error e
  | none => .ok (ofDistinct literal (Lexicon.repeated?_eq_none.1 h).1)

theorem literal_of_ofLiterals? {f : ρ → Text} {v : Vocabulary ρ} (h : ofLiterals? f = .ok v) :
    v.literal = f := by
  unfold ofLiterals? at h
  split at h
  · cases h
  · cases h; rfl

def role? (v : Vocabulary ρ) (e : Text) : Option ρ :=
  Role.members.find? fun r => v.literal r = e

theorem mem_lexicon {v : Vocabulary ρ} {e : Text} :
    e ∈ v.lexicon.entries ↔ ∃ r, v.literal r = e := by
  rw [v.lexicon_eq, Lexicon.mem_ofDistinct, List.mem_map]
  exact ⟨fun ⟨r, _, h⟩ => ⟨r, h⟩, fun ⟨r, h⟩ => ⟨r, Role.mem_members r, h⟩⟩

theorem literal_injective (v : Vocabulary ρ) {r s : ρ} (h : v.literal r = v.literal s) : r = s :=
  have aux : ∀ l : List ρ, (l.map v.literal).Nodup → r ∈ l → s ∈ l → r = s := by
    intro l
    induction l with
    | nil => simp
    | cons x l ih =>
      intro hn hr hs
      rw [List.map_cons, List.nodup_cons] at hn
      rcases List.mem_cons.1 hr with er | mr <;> rcases List.mem_cons.1 hs with es | ms
      · exact er.trans es.symm
      · exact absurd (List.mem_map.2 ⟨s, ms, er ▸ h.symm⟩) hn.1
      · exact absurd (List.mem_map.2 ⟨r, mr, es ▸ h⟩) hn.1
      · exact ih hn.2 mr ms
  aux _ v.distinct (Role.mem_members r) (Role.mem_members s)

theorem role?_eq_some_iff {v : Vocabulary ρ} {e : Text} {r : ρ} :
    v.role? e = some r ↔ v.literal r = e := by
  constructor
  · intro h
    simpa using List.find?_some h
  · intro h
    cases hf : v.role? e with
    | none =>
      have := List.find?_eq_none.1 hf r (Role.mem_members r)
      simp [h] at this
    | some s =>
      have hs : v.literal s = e := by simpa using List.find?_some hf
      rw [v.literal_injective (hs.trans h.symm)]

@[simp] theorem role?_literal (v : Vocabulary ρ) (r : ρ) : v.role? (v.literal r) = some r :=
  role?_eq_some_iff.2 rfl

def display (v : Vocabulary ρ) : Text :=
  let item (r : ρ) := Text.quoted (Role.label r) ++ ": " ++ Text.quoted (v.literal r)
  "Vocabulary(\x7b" ++ Text.join ", " (Role.members.map item) ++ "\x7d)"

end Vocabulary

end NarseseDialects
