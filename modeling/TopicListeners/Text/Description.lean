import TopicListeners.Text.Characters

/-!
# Descriptions

How values are written in log lines. A text stands between double quotes, on one line, with a
backslash before whatever could be mistaken for something else. Lists, optional values and
structures are put together from the texts of their parts.

* `escape_ne_quote`: no escaped character starts with a quote, so the closing quote is the first
  one that no backslash stands before.
-/

namespace TopicListeners.Text

/-! ## Quoted texts -/

/-- How one character is written inside quotes. -/
def escape (c : Char) : List Char :=
  match c with
  | '"' => ['\\', '"']
  | '\\' => ['\\', '\\']
  | '\n' => ['\\', 'n']
  | '\r' => ['\\', 'r']
  | '\t' => ['\\', 't']
  | '\x00' => ['\\', '0']
  | c => if isVisible c then [c] else '\\' :: 'u' :: '{' :: Nat.toDigits 16 c.toNat ++ ['}']

/-- A text between quotes. -/
def quoted (s : String) : String :=
  String.ofList ('"' :: s.toList.flatMap escape ++ ['"'])

/-- An escaped character never starts with a quote. -/
theorem escape_ne_quote (c : Char) : ∀ cs, escape c ≠ '"' :: cs := by
  intro cs
  unfold escape
  split <;> try simp
  rename_i h _ _ _ _ _
  split <;> simp_all

/-! ## Lists, options and structures -/

/-- Items between brackets. -/
def describeList (items : List String) : String :=
  "[" ++ ", ".intercalate items ++ "]"

/-- A value that may be missing. -/
def describeOption : Option String → String
  | none => "None"
  | some s => "Some(" ++ s ++ ")"

/-- Named fields, each with the text of its value. -/
def describeFields (fields : List (String × String)) : List String :=
  fields.map fun f => f.1 ++ ": " ++ f.2

/-- A structure with all its fields. -/
def describeStructure (name : String) (fields : List (String × String)) : String :=
  name ++ " \x7b " ++ ", ".intercalate (describeFields fields) ++ " \x7d"

/-- A structure that shows only some of its fields. -/
def describePart (name : String) (fields : List (String × String)) : String :=
  name ++ " \x7b " ++ ", ".intercalate (describeFields fields ++ [".."]) ++ " \x7d"

end TopicListeners.Text
