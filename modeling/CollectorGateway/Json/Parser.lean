import CollectorGateway.Json.Token

/-!
JSON trees from tokens. The builder keeps the open arrays and objects on a
stack and knows what may come next, so trees of any depth are built token by
token.
-/

namespace CollectorGateway.Json

inductive Open where
  | array (items : List Json)
  | object (members : List (List TextUnit × Json))
  /-- An object that waits for the value of a key. -/
  | member (members : List (List TextUnit × Json)) (key : List TextUnit)

inductive Expect where
  | value
  | itemOrClose
  | keyOrClose
  | key
  | colon
  | commaOrClose
  | nothing
  deriving DecidableEq

structure Build where
  stack : List Open
  expect : Expect
  /-- The finished value, once nothing more is expected. -/
  result : Option Json

namespace Build

def start : Build := ⟨[], .value, none⟩

def supply (stack : List Open) (j : Json) : Option Build :=
  match stack with
  | [] => some ⟨[], .nothing, some j⟩
  | .array items :: stack => some ⟨.array (j :: items) :: stack, .commaOrClose, none⟩
  | .member members key :: stack =>
      some ⟨.object ((key, j) :: members) :: stack, .commaOrClose, none⟩
  | .object _ :: _ => none

def beginValue (stack : List Open) : Token → Option Build
  | .openArray => some ⟨.array [] :: stack, .itemOrClose, none⟩
  | .openObject => some ⟨.object [] :: stack, .keyOrClose, none⟩
  | .null => supply stack .null
  | .bool b => supply stack (.bool b)
  | .number n => supply stack (.number n)
  | .text units => supply stack (.text units)
  | _ => none

def beginMember : List Open → Token → Option Build
  | .object members :: stack, .text key => some ⟨.member members key :: stack, .colon, none⟩
  | _, _ => none

def close : List Open → Token → Option Build
  | .array items :: stack, .closeArray => supply stack (.array items.reverse)
  | .object members :: stack, .closeObject => supply stack (.object members.reverse)
  | _, _ => none

def step (b : Build) (t : Token) : Option Build :=
  match b.expect with
  | .value => beginValue b.stack t
  | .itemOrClose => if t = .closeArray then close b.stack t else beginValue b.stack t
  | .keyOrClose => if t = .closeObject then close b.stack t else beginMember b.stack t
  | .key => beginMember b.stack t
  | .colon => if t = .colon then some { b with expect := .value } else none
  | .commaOrClose =>
    if t = .comma then
      match b.stack with
      | .array _ :: _ => some { b with expect := .value }
      | .object _ :: _ => some { b with expect := .key }
      | _ => none
    else close b.stack t
  | .nothing => none

end Build

def ofTokens? (ts : List Token) : Option Json := do
  (← ts.foldlM Build.step Build.start).result

def parse? (cs : List Char) : Option Json := do ofTokens? (← tokens? cs)

end CollectorGateway.Json
