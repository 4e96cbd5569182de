import MachineCompiler.Text.Digits
import MachineCompiler.Text.Quoted
import Mathlib.Tactic.SplitIfs

/-!
# Quoted texts are told apart

A quoted character can be read where it stands at the beginning of a text, and so a quoted text
shows where it ends and what it quotes.
-/

namespace MachineCompiler.Text

/-! ## Digits in base sixteen -/

/-- A digit has the value that it is written for. -/
theorem digit_value_digit_char :
    ∀ value < 16, digitValue (Nat.digitChar value) = value ∧ isHexDigit (Nat.digitChar value) := by
  decide

theorem value_of_append (base : Nat) (digits : List Char) (digit : Char) :
    valueOf base (digits ++ [digit]) = valueOf base digits * base + digitValue digit := by
  rw [valueOf, List.foldl_append]
  rfl

/-- A number is the value of its digits. -/
theorem value_of_hex_digits (value : Nat) :
    valueOf 16 (hexDigits value) = value ∧ ∀ c ∈ hexDigits value, isHexDigit c = true := by
  unfold hexDigits
  induction value using Nat.strongRecOn with
  | ind value ih =>
    by_cases hsmall : value < 16
    · obtain ⟨hvalue, hdigit⟩ := digit_value_digit_char value hsmall
      rw [Nat.toDigits_of_lt_base hsmall]
      exact ⟨by simp [valueOf, hvalue], by simpa using hdigit⟩
    · obtain ⟨hvalue, hdigit⟩ := digit_value_digit_char (value % 16) (Nat.mod_lt _ (by decide))
      obtain ⟨hrest, hdigits⟩ := ih (value / 16) (by omega)
      rw [Nat.toDigits_of_base_le (by decide) (by omega)]
      refine ⟨?_, fun c hc => ?_⟩
      · rw [value_of_append, hrest, hvalue]
        omega
      · rcases List.mem_append.1 hc with hc | hc
        · exact hdigits c hc
        · exact List.mem_singleton.1 hc ▸ hdigit

/-! ## Reading what was quoted -/

/-- The character that is quoted at the beginning of a text, and the rest of the text. -/
def readQuotedChar : List Char → Option (Char × List Char)
  | '\\' :: '0' :: rest => some ('\x00', rest)
  | '\\' :: 't' :: rest => some ('\t', rest)
  | '\\' :: 'r' :: rest => some ('\r', rest)
  | '\\' :: 'n' :: rest => some ('\n', rest)
  | '\\' :: 'u' :: '\x7b' :: rest =>
    some (Char.ofNat (valueOf 16 (rest.takeWhile isHexDigit)), (rest.dropWhile isHexDigit).tail)
  | '\\' :: c :: rest => some (c, rest)
  | c :: rest => some (c, rest)
  | [] => none

/-- A character that is quoted by its code point is read by it. -/
theorem read_code_point (c : Char) (rest : List Char) :
    readQuotedChar ('\\' :: 'u' :: '\x7b' :: (hexDigits c.toNat ++ '\x7d' :: rest)) =
      some (c, rest) := by
  obtain ⟨hvalue, hdigits⟩ := value_of_hex_digits c.toNat
  have hend : isHexDigit '\x7d' = false := by decide
  have htaken : (hexDigits c.toNat ++ '\x7d' :: rest).takeWhile isHexDigit = hexDigits c.toNat := by
    rw [List.takeWhile_append_of_pos hdigits, List.takeWhile_cons_of_neg (by simp [hend]),
      List.append_nil]
  have hleft : (hexDigits c.toNat ++ '\x7d' :: rest).dropWhile isHexDigit = '\x7d' :: rest := by
    rw [List.dropWhile_append_of_pos hdigits, List.dropWhile_cons_of_neg (by simp [hend])]
  rw [readQuotedChar, htaken, hleft, hvalue, Char.ofNat_toNat, List.tail_cons]

/-- A quoted character is read back, and what follows it is left. -/
theorem read_quote_char (c : Char) (rest : List Char) :
    readQuotedChar (quoteChar c ++ rest) = some (c, rest) := by
  unfold quoteChar
  split_ifs with hnull htab hreturn hline hbackslash hquote hhidden
  · rw [hnull]; rfl
  · rw [htab]; rfl
  · rw [hreturn]; rfl
  · rw [hline]; rfl
  · rw [hbackslash]; rfl
  · rw [hquote]; rfl
  · rw [List.append_assoc, List.append_assoc]
    exact read_code_point c rest
  · rw [List.singleton_append]
    unfold readQuotedChar
    split <;> simp_all

/-- No quoted character begins like the end of a quoted text. -/
theorem quote_char_begins (c : Char) : ∃ first rest, quoteChar c = first :: rest ∧ first ≠ '"' := by
  unfold quoteChar
  split_ifs with _ _ _ _ _ hquote
  case neg => exact ⟨c, [], rfl, hquote⟩
  all_goals exact ⟨_, _, rfl, by decide⟩

/-- Quoted characters tell where the quoted text ends. -/
theorem quote_chars_append_inj {first second rest rest' : List Char}
    (h : first.flatMap quoteChar ++ '"' :: rest = second.flatMap quoteChar ++ '"' :: rest') :
    first = second ∧ rest = rest' := by
  have hends (c : Char) (cs rest rest' : List Char) :
      '"' :: rest ≠ (c :: cs).flatMap quoteChar ++ '"' :: rest' := by
    obtain ⟨begins, others, hbegins, hne⟩ := quote_char_begins c
    rw [List.flatMap_cons, hbegins]
    exact fun heq => hne (List.cons.inj heq).1.symm
  induction first generalizing second with
  | nil =>
    cases second with
    | nil => exact ⟨rfl, (List.cons.inj h).2⟩
    | cons d second => exact absurd h (hends d second rest rest')
  | cons c first ih =>
    cases second with
    | nil => exact absurd h.symm (hends c first rest' rest)
    | cons d second =>
      rw [List.flatMap_cons, List.flatMap_cons, List.append_assoc, List.append_assoc] at h
      have hread := congrArg readQuotedChar h
      rw [read_quote_char, read_quote_char, Option.some.injEq, Prod.mk.injEq] at hread
      obtain ⟨hrest, hend⟩ := ih hread.2
      exact ⟨by rw [hread.1, hrest], hend⟩

/-- A quoted text shows what it quotes and where it ends. -/
theorem quoted_append_inj {first second : String} {rest rest' : List Char}
    (h : (quoted first).toList ++ rest = (quoted second).toList ++ rest') :
    first = second ∧ rest = rest' := by
  simp only [quoted, String.toList_ofList, List.cons_append, List.append_assoc, List.nil_append,
    List.cons.injEq, true_and] at h
  obtain ⟨hsame, hrest⟩ := quote_chars_append_inj h
  exact ⟨String.toList_inj.1 hsame, hrest⟩

end MachineCompiler.Text
