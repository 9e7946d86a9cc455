import DensityAudit.Toml.Blank

/-!
# Quoted strings

TOML strings come in four forms: between double or single quotes, on one line or, with three quotes, on
several. Only those between double quotes know escapes. Up to two quotes may stand inside a string of several
lines, also right before its end.
-/

namespace DensityAudit.Toml

def hexDigit? (c : Char) : Option Nat :=
  if c.isDigit then some (c.toNat - 48)
  else if 'a' ≤ c ∧ c ≤ 'f' then some (c.toNat - 87)
  else if 'A' ≤ c ∧ c ≤ 'F' then some (c.toNat - 55)
  else none

def hexValue? (digits : List Char) : Option Nat :=
  digits.foldlM (fun n c => (hexDigit? c).map (16 * n + ·)) 0

/-- The character with a code point given by exactly `width` hexadecimal digits. -/
def codePoint? (width : Nat) (s : List Char) : Option (Char × List Char) :=
  if (s.take width).length < width then none
  else (hexValue? (s.take width)).bind fun n =>
    if n.isValidChar then some (Char.ofNat n, s.drop width) else none

/-- The character of an escape, after the backslash. -/
def escape? : List Char → Option (Char × List Char)
  | 'b' :: rest => some ('\x08', rest)
  | 't' :: rest => some ('\t', rest)
  | 'n' :: rest => some ('\n', rest)
  | 'f' :: rest => some ('\x0c', rest)
  | 'r' :: rest => some ('\r', rest)
  | '"' :: rest => some ('"', rest)
  | '\\' :: rest => some ('\\', rest)
  | 'u' :: rest => codePoint? 4 rest
  | 'U' :: rest => codePoint? 8 rest
  | _ => none

theorem codePoint?_length_le {width : Nat} {s rest : List Char} {c : Char}
    (h : codePoint? width s = some (c, rest)) : rest.length ≤ s.length := by
  unfold codePoint? at h
  split at h
  · cases h
  · obtain ⟨n, _, h⟩ := Option.bind_eq_some_iff.1 h
    by_cases hv : n.isValidChar
    · rw [if_pos hv] at h
      rw [← (Prod.mk.inj (Option.some.inj h)).2, List.length_drop]
      omega
    · rw [if_neg hv] at h
      cases h

theorem escape?_length_lt {s rest : List Char} {c : Char} (h : escape? s = some (c, rest)) :
    rest.length < s.length := by
  unfold escape? at h
  split at h
  case h_8 =>
    have le := codePoint?_length_le h
    simp only [List.length_cons]
    omega
  case h_9 =>
    have le := codePoint?_length_le h
    simp only [List.length_cons]
    omega
  case h_10 => cases h
  all_goals
    rw [← (Prod.mk.inj (Option.some.inj h)).2]
    exact Nat.lt_succ_self _

/-- A string between double quotes on one line, after its opening quote. -/
def basicTail? (s : List Char) : Option (List Char × List Char) :=
  match s with
  | [] => none
  | '"' :: rest => some ([], rest)
  | '\\' :: rest =>
    match _ : escape? rest with
    | some (c, next) => (basicTail? next).map fun (text, left) => (c :: text, left)
    | none => none
  | c :: rest => if isPlain c then (basicTail? rest).map fun (text, left) => (c :: text, left) else none
termination_by s.length
decreasing_by
  · have lt := escape?_length_lt (by assumption)
    simp only [List.length_cons]
    omega
  · exact Nat.lt_succ_self _

theorem skipSpace_length_le (s : List Char) : (skipSpace s).length ≤ s.length := by
  fun_induction skipSpace s with
  | case1 rest ih => exact Nat.le_succ_of_le ih
  | case2 rest ih => exact Nat.le_succ_of_le ih
  | case3 rest ih => exact Nat.le_succ_of_le ih
  | case4 rest ih => exact Nat.le_succ_of_le (Nat.le_succ_of_le ih)
  | case5 s => exact Nat.le_refl _

theorem newline?_length_lt {s rest : List Char} (h : newline? s = some rest) : rest.length < s.length := by
  unfold newline? at h
  split at h
  · rw [← Option.some.inj h]
    exact Nat.lt_succ_self _
  · rw [← Option.some.inj h]
    simp only [List.length_cons]
    omega
  · cases h

theorem skipBlanks_length_le (s : List Char) : (skipBlanks s).length ≤ s.length :=
  (List.dropWhile_sublist _).length_le

/-- Leaves out the end of a line whose last character was a backslash, and all space after it. -/
def lineContinuation? (s : List Char) : Option (List Char) := (newline? (skipBlanks s)).map skipSpace

theorem lineContinuation?_length_lt {s rest : List Char} (h : lineContinuation? s = some rest) :
    rest.length < s.length := by
  obtain ⟨next, hn, rfl⟩ := Option.map_eq_some_iff.1 h
  have h1 := newline?_length_lt hn
  have h2 := skipBlanks_length_le s
  have h3 := skipSpace_length_le next
  omega

/-- A string between triple double quotes, after the opening quotes and a newline right behind them. -/
def basicLinesTail? (s : List Char) : Option (List Char × List Char) :=
  match s with
  | [] => none
  | '"' :: '"' :: '"' :: '"' :: '"' :: rest => some (['"', '"'], rest)
  | '"' :: '"' :: '"' :: '"' :: rest => some (['"'], rest)
  | '"' :: '"' :: '"' :: rest => some ([], rest)
  | '\r' :: '\n' :: rest => (basicLinesTail? rest).map fun (text, left) => ('\n' :: text, left)
  | '\\' :: rest =>
    match _ : lineContinuation? rest with
    | some next => basicLinesTail? next
    | none =>
      match _ : escape? rest with
      | some (c, next) => (basicLinesTail? next).map fun (text, left) => (c :: text, left)
      | none => none
  | c :: rest =>
    if isPlain c || c == '\n' then (basicLinesTail? rest).map fun (text, left) => (c :: text, left) else none
termination_by s.length
decreasing_by
  · simp only [List.length_cons]
    omega
  · have lt := lineContinuation?_length_lt (by assumption)
    simp only [List.length_cons]
    omega
  · have lt := escape?_length_lt (by assumption)
    simp only [List.length_cons]
    omega
  · exact Nat.lt_succ_self _

/-- A string between single quotes on one line, after its opening quote. -/
def literalTail? : List Char → Option (List Char × List Char)
  | [] => none
  | '\'' :: rest => some ([], rest)
  | c :: rest => if isPlain c then (literalTail? rest).map fun (text, left) => (c :: text, left) else none

/-- A string between triple single quotes, after the opening quotes and a newline right behind them. -/
def literalLinesTail? : List Char → Option (List Char × List Char)
  | [] => none
  | '\'' :: '\'' :: '\'' :: '\'' :: '\'' :: rest => some (['\'', '\''], rest)
  | '\'' :: '\'' :: '\'' :: '\'' :: rest => some (['\''], rest)
  | '\'' :: '\'' :: '\'' :: rest => some ([], rest)
  | '\r' :: '\n' :: rest => (literalLinesTail? rest).map fun (text, left) => ('\n' :: text, left)
  | c :: rest =>
    if isPlain c || c == '\n' then (literalLinesTail? rest).map fun (text, left) => (c :: text, left) else none

/-- The text without a newline at its front. -/
def skipNewline (s : List Char) : List Char := (newline? s).getD s

/-- A string on one line, which is what a key can be. -/
def quotedLine? : List Char → Option (List Char × List Char)
  | '"' :: rest => basicTail? rest
  | '\'' :: rest => literalTail? rest
  | _ => none

/-- A string of any form. -/
def quoted? : List Char → Option (List Char × List Char)
  | '"' :: '"' :: '"' :: rest => basicLinesTail? (skipNewline rest)
  | '\'' :: '\'' :: '\'' :: rest => literalLinesTail? (skipNewline rest)
  | s => quotedLine? s

end DensityAudit.Toml
