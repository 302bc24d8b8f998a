import RdmaLink.Multiplexer.Source
import RdmaLink.System.Errno

/-!
# The multiplexer of an endpoint

One set of watched descriptors, each under the token of its source, and beside it the set of
sources that are registered.  Waiting gives the sources of descriptors that are ready: of all of
them if the event buffer holds them, and else of as many as it holds.  Which ones these are and in
which order they come is up to the system.  Readiness is a level: a descriptor that stays ready is
given again by a later wait.
-/

namespace RdmaLink

/-- The watched descriptors of an endpoint and the sources that stand for them. -/
structure Multiplexer (δ : Type) where
  registered : List Source
  watched : List (δ × UInt64)

/-- How the system arranges the watched descriptors that are ready: in any order. -/
structure ReadyOrder (δ : Type) where
  arrange : List (δ × UInt64) → List (δ × UInt64)
  perm : ∀ entries, (arrange entries).Perm entries

/-- The order in which the descriptors were registered. -/
def ReadyOrder.registration {δ : Type} : ReadyOrder δ := ⟨id, fun _ => .refl _⟩

namespace Multiplexer

variable {δ : Type} [DecidableEq δ]

/-- The most sources that one wait gives. -/
def bufferSize : Nat := 64

def empty : Multiplexer δ := ⟨[], []⟩

/-- Number of registered sources. -/
def size (mux : Multiplexer δ) : Nat := mux.registered.length

def isEmpty (mux : Multiplexer δ) : Bool := mux.registered.isEmpty

def isRegistered (mux : Multiplexer δ) (source : Source) : Bool := mux.registered.contains source

def watches (mux : Multiplexer δ) (descriptor : δ) : Bool :=
  mux.watched.any fun entry => entry.1 == descriptor

/-- Watches a descriptor under a source; a descriptor is watched once. -/
def register (mux : Multiplexer δ) (descriptor : δ) (source : Source) :
    Except Errno (Multiplexer δ) :=
  if mux.watches descriptor then .error Errno.alreadyExists
  else
    .ok
      { registered := if mux.isRegistered source then mux.registered else mux.registered ++ [source]
        watched := mux.watched ++ [(descriptor, source.token)] }

/-- Stops watching a descriptor and forgets a source, whichever of the two is known. -/
def deregister (mux : Multiplexer δ) (descriptor : δ) (source : Source) : Multiplexer δ :=
  { registered := mux.registered.filter (· != source)
    watched := mux.watched.filter fun entry => entry.1 != descriptor }

/-- Forgets a descriptor that was closed; its source stays registered. -/
def forget (mux : Multiplexer δ) (descriptor : δ) : Multiplexer δ :=
  { mux with watched := mux.watched.filter fun entry => entry.1 != descriptor }

/-- The sources of the ready descriptors, up to the size of the event buffer. -/
def wait (mux : Multiplexer δ) (ready : δ → Bool) (order : ReadyOrder δ) : List Source :=
  ((order.arrange (mux.watched.filter fun entry => ready entry.1)).take bufferSize).filterMap
    fun entry => Source.ofToken? entry.2

/-- The registered sources in one line. -/
def described (mux : Multiplexer δ) : String :=
  "Multiplexer \x7b registered: \x7b" ++ ", ".intercalate (mux.registered.map Source.described) ++
    "\x7d \x7d"

end Multiplexer

end RdmaLink
