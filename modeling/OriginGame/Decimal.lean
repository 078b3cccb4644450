import Mathlib.Data.List.Basic
import Mathlib.Tactic.Ring

namespace OriginGame.Decimal

variable {n m a b : Nat} {front back : List Char}

-- A number in decimal, as printf and tostring write it.
def text (n : Nat) : List Char := Nat.toDigits 10 n

def width (n : Nat) : Nat := (text n).length

theorem width_le (small : n < 10^(k+1)) : width n ≤ k+1 := (Nat.length_toDigits_le_iff (by decide) (Nat.succ_pos k)).mpr small

theorem text_value (n : Nat) : Nat.ofDigitChars 10 (text n) 0 = n := Nat.ofDigitChars_ten_toDigits

theorem text_injective (same : text n = text m) : n = m := by
  have value := congrArg (fun list => Nat.ofDigitChars 10 list 0) same
  simpa only [text_value] using value

theorem text_digit (some : 0 < n) (small : a < 10) : text (10*n+a) = text n++text a :=
  (Nat.toDigits_append_toDigits (by decide) some small).symm

theorem width_digit (small : a < 10) : width a = 1 := by
  rw [width,text,Nat.toDigits_of_lt_base small]
  rfl

-- Two texts behind each other are a text again, unless the first is a zero.
theorem text_append (some : 0 < n) (m : Nat) : text (n*10^width m+m) = text n++text m := by
  induction m using Nat.base_induction 10 (by decide) with
  | single a small =>
    rw [width_digit small,Nat.pow_one,Nat.mul_comm]
    exact text_digit some small
  | digit m a small more ih =>
    have wider : width (10*m+a) = width m+1 := by
      rw [width,text_digit more small,List.length_append]
      exact congrArg (width m+·) (width_digit small)
    have shifted : n*10^width (10*m+a)+(10*m+a) = 10*(n*10^width m+m)+a := by
      rw [wider,Nat.pow_succ]
      ring
    rw [shifted,text_digit (Nat.lt_of_lt_of_le more (Nat.le_add_left ..)) small,ih,text_digit more small,List.append_assoc]

-- What a text begins with is a text.
theorem text_front (split : text n = front++back) (some : front ≠ []) : ∃ a, front = text a := by
  induction n using Nat.base_induction 10 (by decide) generalizing back with
  | single a small =>
    obtain ⟨c,rest,rfl⟩ := List.exists_cons_of_ne_nil some
    have short := congrArg List.length split
    rw [show (text a).length = 1 from width_digit small,List.length_append,List.length_cons] at short
    have none : back = [] := List.eq_nil_of_length_eq_zero (by omega)
    rw [none,List.append_nil] at split
    exact ⟨a,split.symm⟩
  | digit m a small more ih =>
    rcases back.eq_nil_or_concat with rfl | ⟨rest,c,rfl⟩
    · rw [List.append_nil] at split
      exact ⟨10*m+a,split.symm⟩
    · obtain ⟨d,digit⟩ : ∃ d, text a = [d] := List.length_eq_one_iff.mp (width_digit small)
      rw [text_digit more small,digit,List.concat_eq_append,←List.append_assoc] at split
      exact ih (List.append_inj' split rfl).1

-- A text cut in two texts begins with no zero.
theorem text_split (split : text n = text a++text b) : 0 < a ∧ n = a*10^width b+b := by
  have some : 0 < a := by
    rcases Nat.eq_zero_or_pos a with rfl | some
    · have value := congrArg (fun list => Nat.ofDigitChars 10 list 0) split
      have zero : text 0 = ['0'] := Nat.toDigits_zero 10
      simp only [zero,List.singleton_append,Nat.ofDigitChars_cons,text_value] at value
      change n = Nat.ofDigitChars 10 (text b) 0 at value
      rw [text_value] at value
      have longer := congrArg List.length split
      rw [value,zero,List.length_append,List.length_singleton] at longer
      omega
    · exact some
  refine ⟨some,text_injective ?_⟩
  rw [split,text_append some]

-- The second watcher ends with digits that the first pair has in front of its marker.
def Shifted (w m w' m' : Nat) : Prop := ∃ a, 0 < w ∧ 0 < a ∧ w' = w*10^width a+a ∧ m = a*10^width m'+m'

-- When two pairs of numbers are the same text without a sign between them.
theorem texts_eq_iff (w m w' m' : Nat) :
    text w++text m = text w'++text m' ↔ (w = w' ∧ m = m') ∨ Shifted w m w' m' ∨ Shifted w' m' w m := by
  have shifted {w m w' m' : Nat} {part : List Char} (longer : text w' = text w++part) (begins : text m = part++text m') :
      (w = w' ∧ m = m') ∨ Shifted w m w' m' := by
    by_cases none : part = []
    · subst none
      rw [List.append_nil] at longer
      exact .inl ⟨(text_injective longer).symm,text_injective begins⟩
    · obtain ⟨a,rfl⟩ := text_front begins none
      obtain ⟨someW,watcher⟩ := text_split longer
      obtain ⟨someA,marker⟩ := text_split begins
      exact .inr ⟨a,someW,someA,watcher,marker⟩
  have same {w m w' m' : Nat} (shift : Shifted w m w' m') : text w++text m = text w'++text m' := by
    obtain ⟨a,someW,someA,rfl,rfl⟩ := shift
    rw [text_append someW,text_append someA,List.append_assoc]
  constructor
  · intro equal
    rcases List.append_eq_append_iff.mp equal with ⟨part,longer,begins⟩ | ⟨part,longer,begins⟩
    · rcases shifted longer begins with equal | shift
      · exact .inl equal
      · exact .inr (.inl shift)
    · rcases shifted longer begins with ⟨watcher,marker⟩ | shift
      · exact .inl ⟨watcher.symm,marker.symm⟩
      · exact .inr (.inr shift)
  · rintro (⟨rfl,rfl⟩ | shift | shift)
    · rfl
    · exact same shift
    · exact (same shift).symm

end OriginGame.Decimal
