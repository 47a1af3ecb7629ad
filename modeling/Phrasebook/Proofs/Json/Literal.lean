import Phrasebook.Json.Reader
import Phrasebook.Json.Writer

/-!
String and integer literals.  The grammar of JSON says what may stand between two quotation marks for
a text; the reader follows it whatever comes after the closing mark, and what is written obeys it.
-/

namespace Phrasebook.Json

open Text

/-- The second list may stand between quotation marks for the first. -/
inductive Quotes : List Char → List Char → Prop where
  | nil : Quotes [] []
  | plain {char : Char} {text body : List Char} (printable : 0x20 ≤ char.toNat) (mark : char ≠ '"')
      (backslash : char ≠ '\\') (rest : Quotes text body) : Quotes (char :: text) (char :: body)
  | escape {letter char : Char} {text body : List Char} (stands : unescape? letter = some char)
      (rest : Quotes text body) : Quotes (char :: text) ('\\' :: letter :: body)
  | unit {a b c d char : Char} {text body : List Char} (stands : (unit? a b c d).bind scalar? = some char)
      (rest : Quotes text body) : Quotes (char :: text) ('\\' :: 'u' :: a :: b :: c :: d :: body)
  | pair {a b c d e f g h char : Char} {high : Nat} {text body : List Char}
      (first : unit? a b c d = some high)
      (stands : (unit? e f g h).bind (pair? high) = some char) (rest : Quotes text body) :
      Quotes (char :: text)
        ('\\' :: 'u' :: a :: b :: c :: d :: '\\' :: 'u' :: e :: f :: g :: h :: body)

theorem scalar?_of_pair? {high low : Nat} {char : Char} (paired : pair? high low = some char) :
    scalar? high = none := by
  unfold pair? at paired
  split at paired
  · rename_i surrogates
    simp only [Bool.and_eq_true, decide_eq_true_eq] at surrogates
    have invalid : ¬ high.isValidChar := by
      unfold Nat.isValidChar
      omega
    simp [scalar?, invalid]
  · contradiction

theorem unescape?_u : unescape? 'u' = none := by decide

theorem readString_of_quotes {text body : List Char} (quotes : Quotes text body) (rest : List Char) :
    readString (body ++ '"' :: rest) = some (text, rest) := by
  induction quotes with
  | nil => simp [readString]
  | @plain char text body printable mark backslash _ ih =>
      have small : ¬ char.toNat < 0x20 := by omega
      simp [readString, backslash, small, ih]
  | @escape letter char text body stands _ ih =>
      have other : letter ≠ 'u' := by
        intro same
        subst same
        rw [unescape?_u] at stands
        contradiction
      simp [readString, other, stands, ih]
  | unit stands _ ih =>
      simp only [List.cons_append]
      rw [readString.eq_def]
      simp [stands, ih]
  | @pair a b c d e f g h char high text body first stands _ ih =>
      obtain ⟨low, _, paired⟩ := Option.bind_eq_some_iff.mp stands
      simp [readString, first, stands, scalar?_of_pair? paired, ih]

theorem exists_tail_of_readString {char : Char} {after text rest : List Char}
    (read : (readString after).map (fun (text, after) => (char :: text, after)) = some (text, rest)) :
    ∃ tail, text = char :: tail ∧ readString after = some (tail, rest) := by
  obtain ⟨⟨tail, others⟩, inner, same⟩ := Option.map_eq_some_iff.mp read
  cases same
  exact ⟨tail, rfl, inner⟩

/-- The reader takes nothing but what the grammar allows. -/
theorem exists_quotes_of_readString {chars text rest : List Char}
    (read : readString chars = some (text, rest)) :
    ∃ body, Quotes text body ∧ chars = body ++ '"' :: rest := by
  fun_induction readString chars generalizing text with
  | case1 => contradiction
  | case2 after =>
      cases read
      exact ⟨[], .nil, rfl⟩
  | case3 a b c d after char stands ih =>
      obtain ⟨tail, rfl, inner⟩ := exists_tail_of_readString read
      obtain ⟨body, quotes, rfl⟩ := ih inner
      exact ⟨_, .unit stands quotes, rfl⟩
  | case4 a b c d _ e f g h after char stands ih =>
      obtain ⟨tail, rfl, inner⟩ := exists_tail_of_readString read
      obtain ⟨body, quotes, rfl⟩ := ih inner
      obtain ⟨high, first, paired⟩ := Option.bind_eq_some_iff.mp stands
      exact ⟨_, .pair first paired quotes, rfl⟩
  | case5 => contradiction
  | case6 => contradiction
  | case7 letter after _ char stands ih =>
      obtain ⟨tail, rfl, inner⟩ := exists_tail_of_readString read
      obtain ⟨body, quotes, rfl⟩ := ih inner
      exact ⟨_, .escape stands quotes, rfl⟩
  | case8 => contradiction
  | case9 => contradiction
  | case10 char after mark _ _ plain ih =>
      obtain ⟨tail, rfl, inner⟩ := exists_tail_of_readString read
      obtain ⟨body, quotes, rfl⟩ := ih inner
      simp only [Bool.or_eq_true, decide_eq_true_eq, beq_iff_eq, not_or, Nat.not_lt] at plain
      exact ⟨_, .plain plain.1 mark plain.2 quotes, rfl⟩

theorem unit?_hexDigits {n : Nat} (control : n < 0x20) :
    (unit? (hexDigits.hexDigit (n / 16 / 16 / 16 % 16)) (hexDigits.hexDigit (n / 16 / 16 % 16))
      (hexDigits.hexDigit (n / 16 % 16)) (hexDigits.hexDigit (n % 16))).bind scalar? =
      some (Char.ofNat n) := by
  have all : ∀ n < 0x20, (unit? (hexDigits.hexDigit (n / 16 / 16 / 16 % 16))
      (hexDigits.hexDigit (n / 16 / 16 % 16)) (hexDigits.hexDigit (n / 16 % 16))
      (hexDigits.hexDigit (n % 16))).bind scalar? = some (Char.ofNat n) := by decide
  exact all n control

theorem quotes_escapeChar (char : Char) {text body : List Char} (rest : Quotes text body) :
    Quotes (char :: text) (escapeChar char ++ body) := by
  -- Seven characters have an escape of one letter.
  have short {named letter : Char} (same : (char == named) = true)
      (stands : unescape? letter = some named) :
      Quotes (char :: text) ('\\' :: letter :: body) := by
    rw [eq_of_beq same]
    exact .escape stands rest
  unfold escapeChar
  split <;> rename_i mark
  · exact short mark rfl
  split <;> rename_i backslash
  · exact short backslash rfl
  split <;> rename_i newline
  · exact short newline rfl
  split <;> rename_i carriageReturn
  · exact short carriageReturn rfl
  split <;> rename_i tab
  · exact short tab rfl
  split <;> rename_i backspace
  · exact short backspace rfl
  split <;> rename_i formFeed
  · exact short formFeed rfl
  split <;> rename_i control
  · have stands := unit?_hexDigits control
    rw [Char.ofNat_toNat] at stands
    exact .unit stands rest
  · exact .plain (by omega) (by simpa using mark) (by simpa using backslash) rest

/-- What is written between quotation marks for a text stands for it. -/
theorem quotes_flatMap_escapeChar (text : List Char) : Quotes text (text.flatMap escapeChar) := by
  induction text with
  | nil => exact .nil
  | cons char text ih =>
      rw [List.flatMap_cons]
      exact quotes_escapeChar char ih

theorem Quotes.length_le {text body : List Char} (quotes : Quotes text body) :
    text.length ≤ body.length := by
  induction quotes with
  | nil => exact Nat.le_refl 0
  | plain | escape | unit | pair =>
      simp only [List.length_cons]
      omega

theorem stringChars_ne (text : List Char) : stringChars text ≠ text := by
  intro same
  have longer := (quotes_flatMap_escapeChar text).length_le
  have lengths := congrArg List.length same
  rw [stringChars, List.length_cons, List.length_append, List.length_singleton] at lengths
  omega

/-- Digits of a whole number: no zero stands in front of another digit. -/
structure WholeDigits (digits : List Char) : Prop where
  nonempty : digits ≠ []
  all : ∀ c ∈ digits, isAsciiDigit c = true
  leading : digits.head? = some '0' → digits.length = 1

inductive Writes : Int → List Char → Prop where
  | natural {digits : List Char} (whole : WholeDigits digits) : Writes (readDigits digits) digits
  | negative {digits : List Char} (whole : WholeDigits digits) :
      Writes (-readDigits digits) ('-' :: digits)

theorem takeWhile_of_head {test : Char → Bool} {rest : List Char}
    (stop : ∀ c ∈ rest.head?, test c = false) : rest.takeWhile test = [] := by
  cases rest with
  | nil => rfl
  | cons c rest => simp [stop c rfl]

theorem dropWhile_of_head {test : Char → Bool} {rest : List Char}
    (stop : ∀ c ∈ rest.head?, test c = false) : rest.dropWhile test = rest := by
  cases rest with
  | nil => rfl
  | cons c rest => simp [stop c rfl]

theorem wholeDigits?_append {digits rest : List Char} (whole : WholeDigits digits)
    (stop : ∀ c ∈ rest.head?, isAsciiDigit c = false) :
    wholeDigits? (digits ++ rest) = some (digits, rest) := by
  have leading : ¬ (digits.head? = some '0' ∧ ¬ digits.length = 1) :=
    fun ⟨zero, long⟩ => long (whole.leading zero)
  simp [wholeDigits?, List.takeWhile_append_of_pos whole.all, List.dropWhile_append_of_pos whole.all,
    takeWhile_of_head stop, dropWhile_of_head stop, whole.nonempty, leading]

theorem exists_lead_of_writes {value : Int} {chars : List Char} (writes : Writes value chars) :
    ∃ first rest, chars = first :: rest ∧ (first = '-' ∨ isAsciiDigit first = true) := by
  cases writes with
  | negative whole => exact ⟨_, _, rfl, .inl rfl⟩
  | natural whole =>
      obtain ⟨first, rest, rfl⟩ := List.exists_cons_of_ne_nil whole.nonempty
      exact ⟨first, rest, rfl, .inr (whole.all first List.mem_cons_self)⟩

theorem plain_of_lead {first : Char} (lead : first = '-' ∨ isAsciiDigit first = true) :
    first ∉ ['"', '[', '{'] := by
  simp only [List.mem_cons, List.not_mem_nil, or_false]
  intro member
  rcases member with rfl | rfl | rfl <;> exact absurd lead (by decide)

theorem readDigits_toDigits (n : Nat) : readDigits (Nat.toDigits 10 n) = n := by
  have value := @Nat.ofDigitChars_ten_toDigits n
  rwa [Nat.ofDigitChars_eq_foldl] at value

theorem toDigits_leading (n : Nat) (zero : (Nat.toDigits 10 n).head? = some '0') :
    (Nat.toDigits 10 n).length = 1 := by
  induction n using Nat.strongRecOn with
  | ind n ih =>
      rcases Nat.lt_or_ge n 10 with small | large
      · rw [Nat.toDigits_of_lt_base small]
        rfl
      · have inner : (Nat.toDigits 10 (n / 10)).head? = some '0' := by
          rw [Nat.toDigits_of_base_le (by decide) large, List.head?_append] at zero
          rwa [Option.or_of_isSome (List.isSome_head?.mpr Nat.toDigits_ne_nil)] at zero
        obtain ⟨digit, single⟩ := List.length_eq_one_iff.mp (ih (n / 10) (by omega) inner)
        have value := readDigits_toDigits (n / 10)
        rw [single] at inner value
        cases inner
        have none : n / 10 = 0 := value.symm
        omega

theorem wholeDigits_toDigits (n : Nat) : WholeDigits (Nat.toDigits 10 n) where
  nonempty := Nat.toDigits_ne_nil
  all c member := by
    have digit := Nat.isDigit_of_mem_toDigits (by decide) (by decide) member
    simpa [Char.isDigit, isAsciiDigit, Char.le_def] using digit
  leading := toDigits_leading n

theorem writes_intChars (n : Int) : Writes n (intChars n) := by
  unfold intChars
  have whole := wholeDigits_toDigits n.natAbs
  have value := readDigits_toDigits n.natAbs
  split
  · have here := Writes.negative whole
    rwa [value, show -(n.natAbs : Int) = n by omega] at here
  · have here := Writes.natural whole
    rwa [value, show (n.natAbs : Int) = n by omega] at here

end Phrasebook.Json
