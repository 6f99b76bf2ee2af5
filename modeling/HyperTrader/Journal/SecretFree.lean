import HyperTrader.Basic
import HyperTrader.Library.Json

/-!
# Secret-free intents

The intent a journal record stores is a bounded JSON object of safe integers,
strings and flags, and none of its keys may name signing or secret material.
-/

namespace HyperTrader

open Library

/-- One alternative of `FORBIDDEN_KEY`: a word, or two words with at most one
character between them. -/
structure ForbiddenWord where
  first : String
  second : String

/-- The alternatives of `FORBIDDEN_KEY`, in the order of the pattern. -/
def forbiddenWords : List ForbiddenWord :=
  [⟨"private", "key"⟩, ⟨"seed", ""⟩, ⟨"mnemonic", ""⟩, ⟨"secret", ""⟩,
    ⟨"signature", ""⟩, ⟨"signed", "payload"⟩, ⟨"signing", "payload"⟩,
    ⟨"action", "bytes"⟩, ⟨"preimage", ""⟩, ⟨"exchange", "body"⟩]

/-- The word starts at the front of the text; `.?` is any character but a line
terminator. -/
def ForbiddenWord.startsAt (word : ForbiddenWord) (text : List Char) : Bool :=
  word.first.toList.isPrefixOf text &&
    match text.drop word.first.toList.length with
    | [] => word.second.isEmpty
    | c :: rest =>
      word.second.toList.isPrefixOf (c :: rest) ||
        (!(['\n', '\r', '\u2028', '\u2029'].contains c) && word.second.toList.isPrefixOf rest)

/-- `FORBIDDEN_KEY.test(key)`: some alternative occurs in the key, in any
case. -/
def forbiddenKey (key : String) : Bool :=
  (asciiLower key).toList.tails.any fun text =>
    forbiddenWords.any fun word => word.startsAt text

def maxIntentBytes : ℕ := 32768

def maxIntentDepth : ℕ := 12

mutual

def validateValue (value : Json) (path : String) (depth : ℕ) : Outcome Unit :=
  if maxIntentDepth < depth then
    .error (.validation path "intent nesting is too deep")
  else
    match value with
    | .null => pure ()
    | .string _ => pure ()
    | .bool _ => pure ()
    | .number n =>
      require (isSafeInteger n)
        (.validation path "intent contains an unsupported value")
    | .array items => validateItems items path depth 0
    | .object fields => validateFields fields path depth
termination_by structural value

def validateItems (items : List Json) (path : String) (depth index : ℕ) : Outcome Unit :=
  match items with
  | [] => pure ()
  | item :: items => do
      validateValue item (path ++ "[" ++ toString index ++ "]") (depth + 1)
      validateItems items path depth (index + 1)
termination_by structural items

def validateFields (fields : List (String × Json)) (path : String) (depth : ℕ) : Outcome Unit :=
  match fields with
  | [] => pure ()
  | field :: fields => do
      validateField field path depth
      validateFields fields path depth
termination_by structural fields

def validateField (field : String × Json) (path : String) (depth : ℕ) : Outcome Unit :=
  match field with
  | (key, value) => do
      require (forbiddenKey key = false)
        (.validation (path ++ "." ++ key) "forbidden signing or secret material")
      validateValue value (path ++ "." ++ key) (depth + 1)
termination_by structural field

end

def serializeSecretFreeIntent (value : Json) : Outcome String := do
  match value with
  | .object _ => pure ()
  | _ => throw (.validation "intent" "expected a plain secret-free intent object")
  validateValue value "intent" 0
  require (value.stringify.utf8ByteSize ≤ maxIntentBytes)
    (.validation "intent" "intent exceeds 32 KiB")
  pure value.stringify

variable {text : String}

theorem serializeSecretFreeIntent_eq_ok {value : Json}
    (h : serializeSecretFreeIntent value = .ok text) : text = value.stringify := by
  unfold serializeSecretFreeIntent at h
  cases value <;> simp [throw, throwThe, MonadExceptOf.throw, pure, Except.pure] at h
  case object fields =>
    exact h.2.2.symm

theorem serializeSecretFreeIntent_injective {a b : Json}
    (ha : serializeSecretFreeIntent a = .ok text)
    (hb : serializeSecretFreeIntent b = .ok text) : a = b := by
  apply Json.stringify_injective
  rw [← serializeSecretFreeIntent_eq_ok ha, ← serializeSecretFreeIntent_eq_ok hb]

end HyperTrader
