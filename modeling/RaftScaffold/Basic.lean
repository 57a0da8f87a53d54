import Mathlib.Data.Finset.Card
import RaftScaffold.Transport.Http

set_option autoImplicit false

/-! # Identifiers, addresses and panics

The vocabulary every other file shares: node ids and infos (`lib.rs`), the addresses of actors, and
panics. A handler that panics kills its actor, so code that can panic returns `Except Panic`. -/

namespace RaftScaffold

/-- `actix_raft::NodeId`, a `u64`. -/
abbrev NodeId := UInt64

/-- `chrono::DateTime<Utc>`, in nanoseconds since the epoch. -/
abbrev DateTime := Int

/-- Inversion of a bind: both computations succeeded. -/
theorem bind_eq_ok {π α β : Type} {x : Except π α} {f : α → Except π β} {b : β} :
    (x >>= f) = .ok b ↔ ∃ a, x = .ok a ∧ f a = .ok b := by
  cases x with
  | error p =>
      constructor
      · intro h
        cases h
      · rintro ⟨a, ha, -⟩
        cases ha
  | ok a =>
      constructor
      · intro h
        exact ⟨a, rfl, h⟩
      · rintro ⟨a', ha, hf⟩
        obtain rfl := Except.ok.inj ha
        exact hf

theorem map_eq_ok {π α β : Type} {x : Except π α} {f : α → β} {b : β} :
    x.map f = .ok b ↔ ∃ a, x = .ok a ∧ f a = b := by
  cases x <;> simp [Except.map]

/-- A Rust panic. -/
structure Panic where
  message : String
  deriving DecidableEq, Repr

/-- `Option::unwrap`. -/
def unwrap {α : Type} : Option α → Except Panic α
  | some a => .ok a
  | none => .error ⟨"called `Option::unwrap()` on a `None` value"⟩

/-- `Option::expect`. -/
def expect {α : Type} (message : String) : Option α → Except Panic α
  | some a => .ok a
  | none => .error ⟨message⟩

/-- `Result::expect`, and `Result::unwrap` with its own message; `debug` renders the error. -/
def expectOk {ε α : Type} (message : String) (debug : ε → String) : Except ε α → Except Panic α
  | .ok a => .ok a
  | .error e => .error ⟨message ++ ": " ++ debug e⟩

theorem expectOk_eq_ok {ε α : Type} {message : String} {debug : ε → String} {r : Except ε α} {a : α} :
    expectOk message debug r = .ok a ↔ r = .ok a := by
  cases r <;> simp [expectOk]

@[simp] theorem unwrap_some {α : Type} (a : α) : unwrap (some a) = .ok a := rfl
@[simp] theorem expect_some {α : Type} (m : String) (a : α) : expect m (some a) = .ok a := rfl

theorem unwrap_eq_ok {α : Type} {o : Option α} {a : α} : unwrap o = .ok a ↔ o = some a := by
  cases o <;> simp [unwrap]

theorem expect_eq_ok {α : Type} {m : String} {o : Option α} {a : α} :
    expect m o = .ok a ↔ o = some a := by
  cases o <;> simp [expect]

structure NodeInfo where
  name : String
  clusterAddress : String
  appAddress : String
  publicAddress : String
  deriving DecidableEq, Repr

/-- `u64::from_be_bytes`. -/
def fromBeBytes (bytes : List UInt8) : UInt64 :=
  bytes.foldl (fun acc b => acc * 256 + b.toUInt64) 0

/-- `utils::generate_node_id`: the first eight characters of the hexadecimal SHA-256 digest of the
    address, read as a big-endian number. The digest is a parameter. -/
def generateNodeId (sha256 : String → String) (address : String) : NodeId :=
  fromBeBytes ((sha256 address).toUTF8.toList.take 8)

def NodeInfo.nodeId (sha256 : String → String) (info : NodeInfo) : NodeId :=
  generateNodeId sha256 info.clusterAddress

/-- `Addr<Node>`: which of the process's `Node` actors is meant, in the order they were started. -/
structure Addr where
  index : Nat
  deriving DecidableEq, Repr

/-- `Addr<Raft>`. -/
structure RaftAddr where
  index : Nat
  deriving DecidableEq, Repr

end RaftScaffold
