import TopicListeners.Collaborator

/-!
# Subscriptions

Which topics can be subscribed to together, and consumers that check this when they subscribe and
find nothing else to object to. Topics are named one by one or by a pattern, an extended regular
expression. Here is decided which texts are such expressions, not what they match: a text is cut
into tokens, and the tokens are checked from left to right. Every byte counts as a character of its
own.
-/

namespace TopicListeners.Pattern

/-- What an expression is made of. -/
inductive Token
  /-- A character, a class of characters or a bracket expression. -/
  | atom
  /-- The start or the end of a line or of a word. -/
  | anchor
  /-- How often what comes before is repeated. -/
  | repetition
  /-- What a group has matched. -/
  | reference (group : Nat)
  | bar
  | opening
  | closing
deriving DecidableEq, Repr

/-- The token of a character outside brackets. -/
def Token.ofChar (c : Char) : Token :=
  if c ∈ ['^', '$'] then .anchor
  else if c ∈ ['*', '+', '?'] then .repetition
  else if c = '|' then .bar
  else if c = '(' then .opening
  else if c = ')' then .closing
  else .atom

/-- The token of a character after a backslash. -/
def Token.ofEscaped (c : Char) : Token :=
  if c ∈ ['<', '>', 'b', 'B', '\x60', '\x27'] then .anchor
  else if '1' ≤ c ∧ c ≤ '9' then .reference (c.toNat - 48)
  else .atom

/-- The classes that have a name. -/
def classNames : List String :=
  ["alnum", "alpha", "blank", "cntrl", "digit", "graph", "lower", "print", "punct", "space",
    "upper", "xdigit"]

/-- The most repetitions that can be asked for. -/
def maxRepetitions : Nat := 32767

/-- Whether a repetition can have these bounds, of which either may be missing. -/
def boundsAgree (least most : Option Nat) : Bool :=
  match most with
  | none => least.getD 0 ≤ maxRepetitions
  | some n => least.getD 0 ≤ n && n ≤ maxRepetitions

/-- A number with one digit more. -/
def withDigit (n : Option Nat) (c : Char) : Option Nat := some (n.getD 0 * 10 + (c.toNat - 48))

/-- Where in a bracket expression one is. -/
inductive Place
  /-- At its start, where a bracket or a hyphen stands for itself. -/
  | first
  /-- After a character, from which a range may go on. -/
  | after (c : Char)
  /-- After anything else. -/
  | apart

mutual

/-- The tokens of a text. There are none if a bracket, a brace or a backslash is left without what
belongs to it. -/
def tokens : List Char → Option (List Token)
  | [] => some []
  | '\\' :: c :: cs => (tokens cs).map (.ofEscaped c :: ·)
  | ['\\'] => none
  | '[' :: '^' :: cs => bracket .first cs
  | '[' :: cs => bracket .first cs
  | '{' :: cs => leastBound none cs
  | c :: cs => (tokens cs).map (.ofChar c :: ·)

/-- The tokens of a text that starts inside a bracket expression. -/
def bracket (place : Place) : List Char → Option (List Token)
  | [] => none
  | ']' :: cs =>
    match place with
    | .first => bracket (.after ']') cs
    | _ => (tokens cs).map (.atom :: ·)
  | '-' :: ']' :: cs => (tokens cs).map (.atom :: ·)
  | '-' :: cs =>
    match place with
    | .first => bracket (.after '-') cs
    | .after c => rangeEnd c cs
    | .apart => none
  | '[' :: '.' :: c :: '.' :: ']' :: cs => bracket (.after c) cs
  | '[' :: '.' :: _ => none
  | '[' :: '=' :: _ :: '=' :: ']' :: cs => bracket .apart cs
  | '[' :: '=' :: _ => none
  | '[' :: ':' :: cs => className [] cs
  | c :: cs => bracket (.after c) cs

/-- The tokens of a text that starts with the end of a range, which must not be before its
start. -/
def rangeEnd (start : Char) : List Char → Option (List Token)
  | [] => none
  | '[' :: '.' :: c :: '.' :: ']' :: cs => if start ≤ c then bracket .apart cs else none
  | '[' :: '.' :: _ => none
  | '[' :: '=' :: _ => none
  | '[' :: ':' :: _ => none
  | c :: cs => if start ≤ c then bracket .apart cs else none

/-- The tokens of a text that starts inside the name of a class. -/
def className (read : List Char) : List Char → Option (List Token)
  | [] => none
  | ':' :: ']' :: cs =>
    if String.ofList read.reverse ∈ classNames then bracket .apart cs else none
  | c :: cs => className (c :: read) cs

/-- The tokens of a text that starts inside the braces of a repetition. A backslash before a comma
or a zero changes nothing there. -/
def leastBound (n : Option Nat) : List Char → Option (List Token)
  | [] => none
  | '}' :: cs =>
    if n.isSome && boundsAgree n n then (tokens cs).map (.repetition :: ·) else none
  | ',' :: cs => mostBound n none cs
  | '\\' :: ',' :: cs => mostBound n none cs
  | '\\' :: '0' :: cs => leastBound (withDigit n '0') cs
  | c :: cs => if c.isDigit then leastBound (withDigit n c) cs else none

/-- The tokens of a text that starts after the comma in the braces of a repetition. -/
def mostBound (least n : Option Nat) : List Char → Option (List Token)
  | [] => none
  | '}' :: cs =>
    if boundsAgree least n then (tokens cs).map (.repetition :: ·) else none
  | '\\' :: '0' :: cs => mostBound least (withDigit n '0') cs
  | c :: cs => if c.isDigit then mostBound least (withDigit n c) cs else none

end

/-- A group that has been opened, or the whole expression. -/
structure Group where
  number : Nat
  /-- The groups that were closed when it was opened. -/
  before : List Nat
  /-- The groups that were closed in its other branches. -/
  aside : List Nat
deriving Repr

/-- How far an expression has been checked. -/
structure State where
  /-- How many groups have been opened. -/
  groups : Nat
  /-- The groups that can be referred to: those closed on the way here, not in another branch. -/
  closed : List Nat
  /-- Whether there is something to repeat. -/
  repeatable : Bool
  /-- The innermost open group. -/
  inner : Group
  /-- The open groups around it, from the inside to the outside. -/
  outer : List Group
deriving Repr

/-- How many groups can be referred to: a reference has one digit. -/
def maxReference : Nat := 9

/-- The groups of both lists, each once. -/
def join (ms ns : List Nat) : List Nat := ms.foldr List.insert ns

/-- One group more, if it can be referred to at all. -/
def close (n : Nat) (ns : List Nat) : List Nat := if n ≤ maxReference then ns.insert n else ns

namespace State

/-- Nothing has been checked. -/
def start : State := ⟨0, [], false, ⟨0, [], []⟩, []⟩

/-- One token, if it can stand here. A closing parenthesis without an opening one stands for
itself. -/
def step (s : State) : Token → Option State
  | .atom => some { s with repeatable := true }
  | .anchor => some { s with repeatable := false }
  | .repetition => if s.repeatable then some s else none
  | .reference n => if n ∈ s.closed then some { s with repeatable := true } else none
  | .bar =>
    some { s with
      closed := s.inner.before
      repeatable := false
      inner := { s.inner with aside := join s.closed s.inner.aside } }
  | .opening =>
    some ⟨s.groups + 1, s.closed, false, ⟨s.groups + 1, s.closed, []⟩, s.inner :: s.outer⟩
  | .closing =>
    match s.outer with
    | [] => some { s with repeatable := true }
    | g :: gs =>
      some { s with
        closed := close s.inner.number (join s.closed s.inner.aside)
        repeatable := true
        inner := g
        outer := gs }

/-- Tokens one after the other. -/
def run (s : State) : List Token → Option State
  | [] => some s
  | t :: ts => (s.step t).bind fun s => run s ts

end State

/-- The bytes of a text as characters. -/
def bytewise (s : String) : List Char :=
  (Text.Utf8.encode s.toList).map fun b => Char.ofNat b.toNat

/-- Whether a text is an extended regular expression, with every group closed at its end. -/
def isWellFormed (s : String) : Bool :=
  match (tokens (bytewise s)).bind (State.run .start) with
  | none => false
  | some s => s.outer.isEmpty

end TopicListeners.Pattern

namespace TopicListeners

/-! ## Subscriptions -/

/-- Whether a text names topics: by a name, or by a pattern if it starts with a caret. -/
def namesTopics (s : String) : Bool :=
  match s.toList with
  | [] => false
  | '^' :: _ => Pattern.isWellFormed s
  | _ => true

/-- Topics can be subscribed to together if there are any, each text names some, and none comes
twice. -/
def Subscribable (topics : List String) : Prop :=
  topics ≠ [] ∧ (∀ t ∈ topics, namesTopics t) ∧ topics.Nodup

instance (topics : List String) : Decidable (Subscribable topics) :=
  inferInstanceAs (Decidable (_ ∧ _))

namespace ClientError

/-- A consumer without a group cannot subscribe. -/
def unknownGroup : ClientError := .subscription "Local: Unknown group"

/-- What a client says of topics that cannot be subscribed to together. -/
def unsubscribable : ClientError := .subscription "Local: Invalid argument or configuration"

end ClientError

/-- A consumer of a group that takes every subscription there can be. -/
def Consumer.ofGroup {σ : Type} (group : String) : Consumer σ where
  subscribe topics :=
    pure <|
      if group = "" then .error .unknownGroup
      else if Subscribable topics then .ok () else .error .unsubscribable

end TopicListeners
