import Mathlib.Algebra.Group.Nat.Defs
import Mathlib.Tactic.Lemma
import NarseseDialects.Proofs.Text.Apart
import NarseseDialects.Proofs.Text.Classes
import NarseseDialects.Text.Quoted

namespace NarseseDialects.Text

variable {q c d : Char} {x y t u : Text}

def hexChars : Text := "0123456789abcdef"

lemma mem_hexChars_of_mem_hexDigits {w n : Nat} (h : c ∈ hexDigits w n) : c ∈ hexChars := by
  induction w generalizing n with
  | zero => cases h
  | succ w ih =>
    rcases List.mem_append.1 h with h | h
    · exact ih h
    · obtain rfl := List.mem_singleton.1 h
      have hall : ∀ i < 16, Nat.digitChar i ∈ hexChars := by decide
      exact hall _ (Nat.mod_lt n (by decide))

lemma length_hexDigits (w n : Nat) : (hexDigits w n).length = w := by
  induction w generalizing n with
  | zero => rfl
  | succ w ih => rw [hexDigits, List.length_append, ih, List.length_singleton]

lemma hexDigits_injective {w n m : Nat} (hn : n < 16 ^ w) (hm : m < 16 ^ w) (h : hexDigits w n = hexDigits w m) :
    n = m := by
  induction w generalizing n m with
  | zero =>
    rw [Nat.pow_zero] at hn hm
    omega
  | succ w ih =>
    have hdigit : ∀ i < 16, ∀ j < 16, Nat.digitChar i = Nat.digitChar j → i = j := by decide
    obtain ⟨hfront, hlast⟩ := List.append_inj' h rfl
    have hlow := hdigit _ (Nat.mod_lt n (by decide)) _ (Nat.mod_lt m (by decide)) (List.singleton_inj.1 hlast)
    rw [Nat.pow_succ] at hn hm
    have hhigh := ih (Nat.div_lt_of_lt_mul (Nat.mul_comm _ 16 ▸ hn)) (Nat.div_lt_of_lt_mul (Nat.mul_comm _ 16 ▸ hm))
      hfront
    rw [← Nat.div_add_mod n 16, ← Nat.div_add_mod m 16, hhigh, hlow]

def escapeWidth (e : Char) : Nat := if e = 'x' then 2 else if e = 'u' then 4 else if e = 'U' then 8 else 0

def escapeValue (e : Char) : Char := if e = 'n' then '\n' else if e = 'r' then '\r' else if e = 't' then '\t' else e

def Escapes (c e : Char) (digits : Text) : Prop :=
  if escapeWidth e = 0 then digits = [] ∧ c = escapeValue e
  else digits = hexDigits (escapeWidth e) c.toNat ∧ c.toNat < 16 ^ escapeWidth e

instance {e : Char} {digits : Text} : Decidable (Escapes c e digits) :=
  inferInstanceAs (Decidable (if escapeWidth e = 0 then digits = [] ∧ c = escapeValue e
    else digits = hexDigits (escapeWidth e) c.toNat ∧ c.toNat < 16 ^ escapeWidth e))

lemma Escapes.length {e : Char} {ds : Text} (h : Escapes c e ds) : ds.length = escapeWidth e := by
  rw [Escapes] at h
  split at h
  next hw => rw [h.1, hw, List.length_nil]
  · rw [h.1, length_hexDigits]

lemma Escapes.unique {e : Char} {ds : Text} (hc : Escapes c e ds) (hd : Escapes d e ds) : c = d := by
  rw [Escapes] at hc hd
  split at hc
  next hw =>
    rw [if_pos hw] at hd
    rw [hc.2, hd.2]
  next hw =>
    rw [if_neg hw] at hd
    have h := hexDigits_injective hc.2 hd.2 (hc.1.symm.trans hd.1)
    rw [← Char.ofNat_toNat c, h, Char.ofNat_toNat]

lemma Escapes.mem_hexChars {e a : Char} {ds : Text} (h : Escapes c e ds) (ha : a ∈ ds) : a ∈ hexChars := by
  rw [Escapes] at h
  split at h
  · rw [h.1] at ha
    cases ha
  · rw [h.1] at ha
    exact mem_hexChars_of_mem_hexDigits ha

lemma exists_escapeCode (c : Char) :
    ∃ e ds, escapeCode c.toNat = '\\' :: e :: ds ∧ e ≠ '\n' ∧ Escapes c e ds := by
  rw [escapeCode]
  split
  next h => exact ⟨'x', _, rfl, by decide, rfl, h⟩
  split
  next h => exact ⟨'u', _, rfl, by decide, rfl, h⟩
  · have hlt : c.toNat < 16 ^ escapeWidth 'U' := Nat.lt_of_le_of_lt (toNat_le c) (by decide)
    exact ⟨'U', _, rfl, by decide, rfl, hlt⟩

def quotes : Text := ['"', '\x27']

lemma quoteFor_mem (t : Text) : quoteFor t ∈ quotes := by
  rw [quoteFor]
  split <;> decide

lemma escapeChar_cases (hq : q ∈ quotes) (c : Char) :
    (escapeChar q c = [c] ∧ c ≠ '\\' ∧ c ≠ '\n') ∨
      ∃ e ds, escapeChar q c = '\\' :: e :: ds ∧ e ≠ '\n' ∧ Escapes c e ds := by
  have hself : ∀ e ∈ '\\' :: quotes, e ≠ '\n' ∧ Escapes e e [] := by decide
  simp only [escapeChar, Bool.or_eq_true, decide_eq_true_eq]
  split
  next h =>
    have hc : c ∈ '\\' :: quotes := by
      rcases h with rfl | rfl
      · exact List.mem_cons_of_mem _ hq
      · exact List.mem_cons_self
    exact .inr ⟨c, [], rfl, hself c hc⟩
  next hplain =>
  split
  next h =>
    rw [h]
    exact .inr ⟨'n', [], rfl, by decide⟩
  next hline =>
  split
  next h =>
    rw [h]
    exact .inr ⟨'r', [], rfl, by decide⟩
  split
  next h =>
    rw [h]
    exact .inr ⟨'t', [], rfl, by decide⟩
  split
  · exact .inl ⟨rfl, fun h => hplain (.inr h), hline⟩
  · exact .inr (exists_escapeCode c)

lemma escapeChar_ne_nil (hq : q ∈ quotes) (c : Char) : escapeChar q c ≠ [] := by
  rcases escapeChar_cases hq c with ⟨h, -⟩ | ⟨e, ds, h, -⟩
  · simp [h]
  · simp [h]

lemma escapeChar_cancel (hq : q ∈ quotes) (h : escapeChar q c ++ x = escapeChar q d ++ y) : c = d ∧ x = y := by
  rcases escapeChar_cases hq c with ⟨hc, hcb, -⟩ | ⟨e, ds, hc, -, hce⟩
  · rcases escapeChar_cases hq d with ⟨hd, -⟩ | ⟨f, es, hd, -⟩
    · rw [hc, hd] at h
      exact List.cons.inj h
    · rw [hc, hd] at h
      exact absurd (List.cons.inj h).1 hcb
  · rcases escapeChar_cases hq d with ⟨hd, hdb, -⟩ | ⟨f, es, hd, -, hdf⟩
    · rw [hc, hd] at h
      exact absurd (List.cons.inj h).1.symm hdb
    · rw [hc, hd] at h
      obtain ⟨rfl, htail⟩ := List.cons.inj (List.cons.inj h).2
      -- the letter says how many digits follow it
      obtain ⟨rfl, hrest⟩ := List.append_inj htail (hce.length.trans hdf.length.symm)
      exact ⟨hce.unique hdf, hrest⟩

lemma quoted_injective (h : quoted t = quoted u) : t = u := by
  obtain ⟨hquote, htail⟩ := List.cons.inj h
  rw [hquote] at htail
  have hq := quoteFor_mem u
  exact flatMap_injective (escapeChar_ne_nil hq) (fun _ _ _ _ => escapeChar_cancel hq) (List.append_cancel_right htail)

lemma newline_notMem_quoted (t : Text) : '\n' ∉ quoted t := by
  have hquotes : ∀ q ∈ quotes, '\n' ≠ q := by decide
  have hhex : '\n' ∉ hexChars := by decide
  have hq := quoteFor_mem t
  rw [quoted, List.mem_append, List.mem_cons, List.mem_singleton, List.mem_flatMap]
  rintro ((h | ⟨c, -, h⟩) | h)
  · exact hquotes _ hq h
  · rcases escapeChar_cases hq c with ⟨hc, -, hn⟩ | ⟨e, ds, hc, he, hds⟩
    · rw [hc] at h
      exact hn (List.mem_singleton.1 h).symm
    · rw [hc, List.mem_cons, List.mem_cons] at h
      rcases h with h | h | h
      · cases h
      · exact he h.symm
      · exact hhex (hds.mem_hexChars h)
  · exact hquotes _ hq h

end NarseseDialects.Text
