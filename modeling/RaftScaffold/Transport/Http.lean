import Mathlib.Data.List.Basic

set_option autoImplicit false

/-! # HTTP exchanges with typed JSON bodies

What two programs that talk over HTTP rely on of their libraries, independent of what they say to each
other: a client that sends a request and decodes the reply, kinds of client errors, and JSON codecs.

The body type and the codecs are parameters: neither the client library nor the JSON library is read
here. `Codec.Lawful` collects what the code relies on — an encoded value decodes to itself, and a body
that is not a JSON object or array (in particular an empty one) is a *serialization* error. -/

namespace Transport

/-- The kinds of client error a program can tell apart; each error has exactly one. -/
inductive ErrorKind where
  | timeout
  | serialization
  | clientError
  | http
  | serverError
  | redirect
  | other
  deriving DecidableEq, Repr

/-- A client error: its kind and its text. -/
structure ClientError where
  kind : ErrorKind
  text : String
  deriving DecidableEq, Repr

def ClientError.isTimeout (e : ClientError) : Bool := e.kind = .timeout
def ClientError.isSerialization (e : ClientError) : Bool := e.kind = .serialization
def ClientError.isClientError (e : ClientError) : Bool := e.kind = .clientError
def ClientError.isHttp (e : ClientError) : Bool := e.kind = .http
def ClientError.isServerError (e : ClientError) : Bool := e.kind = .serverError
def ClientError.isRedirect (e : ClientError) : Bool := e.kind = .redirect

/-- No error is of two kinds: a serialization error is not a timeout. -/
theorem ClientError.isTimeout_of_isSerialization {e : ClientError} (h : e.isSerialization = true) :
    e.isTimeout = false := by
  have hk : e.kind = .serialization := of_decide_eq_true h
  simp [ClientError.isTimeout, hk]

inductive Method where
  | get
  | post
  | delete
  deriving DecidableEq, Repr

/-- A URL as the authority it names and the segments of its path. -/
structure Url where
  authority : String
  segments : List String
  deriving DecidableEq, Repr

/-- Append path segments to a URL. -/
def Url.join (u : Url) (segments : List String) : Url :=
  { u with segments := u.segments ++ segments }

structure Request (Body : Type) where
  method : Method
  url : Url
  body : Body

structure Response (Body : Type) where
  status : Nat
  body : Body

/-- The bodies that are not produced by a codec, the empty one and plain text, and how many bytes a body has. -/
class HttpBody (Body : Type) where
  empty : Body
  text : String → Body
  size : Body → ℕ

/-- A JSON codec for the type `α`. -/
structure Codec (Body α : Type) where
  encode : α → Body
  decode : Body → Except ClientError α

/-- Does a text open a JSON object or array (after JSON white space)? The codecs of structures accept
    no other text. -/
def opensJson (s : String) : Bool :=
  match s.toList.dropWhile (fun c => c = ' ' || c = '\t' || c = '\n' || c = '\r') with
  | c :: _ => c.toNat = 0x7B || c.toNat = 0x5B
  | [] => false

variable {Body α : Type} [HttpBody Body]

/-- What a program may rely on of a JSON codec. -/
structure Codec.Lawful (c : Codec Body α) : Prop where
  roundTrip : ∀ a, c.decode (c.encode a) = .ok a
  empty : ∃ e, c.decode (HttpBody.empty) = .error e ∧ e.isSerialization = true
  text : ∀ s, opensJson s = false →
    ∃ e, c.decode (HttpBody.text s) = .error e ∧ e.isSerialization = true

/-! ## A concrete body type

Bodies that carry the encoded value itself: the smallest instance of the laws above. -/

/-- A body is empty, plain text or the JSON form of a value of `α`, in so many bytes. -/
inductive SimpleBody (α : Type) where
  | empty
  | text (s : String)
  | json (a : α) (size : ℕ)
  deriving DecidableEq, Repr

def SimpleBody.size : SimpleBody α → ℕ
  | .empty => 0
  | .text s => s.utf8ByteSize
  | .json _ size => size

instance : HttpBody (SimpleBody α) := ⟨.empty, .text, SimpleBody.size⟩

/-- The codec for the summand of `α` that `inj` builds and `proj` recognises; `size` says how long the JSON form
    of a value is. -/
def SimpleBody.codec {β : Type} (inj : β → α) (proj : α → Option β) (size : β → ℕ) :
    Codec (SimpleBody α) β where
  encode b := .json (inj b) (size b)
  decode
    | .json a _ => match proj a with
      | some b => .ok b
      | none => .error ⟨.serialization, "invalid type"⟩
    | .empty => .error ⟨.serialization, "EOF while parsing a value"⟩
    | .text _ => .error ⟨.serialization, "expected value"⟩

theorem SimpleBody.codec_lawful {β : Type} (inj : β → α) (proj : α → Option β) (size : β → ℕ)
    (h : ∀ b, proj (inj b) = some b) : (SimpleBody.codec inj proj size).Lawful where
  roundTrip b := by simp [SimpleBody.codec, h]
  empty := ⟨_, rfl, rfl⟩
  text _ _ := ⟨_, rfl, rfl⟩

end Transport
