/-!
# Sources of events

A listener and a connection of one endpoint are told apart by a 64-bit token: the kind in the top
byte, the number in the 56 bits below it.

    id < 2 ^ 56 → ofToken? s.token = some s           (Source.ofToken?_token)
    ofToken? w = some s → s.token = w                 (Source.token_of_ofToken?)
-/

namespace RdmaLink

/-- Something that an endpoint waits for. -/
inductive Source where
  /-- A listener; ready while a peer waits on it. -/
  | listener (id : Nat)
  /-- A connection; ready while it holds completions. -/
  | connection (id : Nat)
deriving DecidableEq, Repr, Inhabited

namespace Source

/-- Count of the numbers below the byte for the kind: `2 ^ 56`. -/
def tagUnit : Nat := 72057594037927936

def id : Source → Nat
  | .listener id => id
  | .connection id => id

/-- The byte that stands for the kind. -/
def tag : Source → Nat
  | .listener _ => 1
  | .connection _ => 2

/-- The token of a source; of the number only the low 56 bits count. -/
def token (source : Source) : UInt64 :=
  UInt64.ofNat (source.tag * tagUnit + source.id % tagUnit)

/-- The source that a token names. -/
def ofToken? (token : UInt64) : Option Source :=
  let id := token.toNat % tagUnit
  if token.toNat / tagUnit = 1 then some (.listener id)
  else if token.toNat / tagUnit = 2 then some (.connection id)
  else none

/-- The word for the kind. -/
def kind : Source → String
  | .listener _ => "listener"
  | .connection _ => "connection"

/-- A source as messages name it. -/
def text : Source → String
  | .listener id => "listener-" ++ toString id
  | .connection id => "conn-" ++ toString id

/-- A source with its kind. -/
def described : Source → String
  | .listener id => "Listener(ListenerId(" ++ toString id ++ "))"
  | .connection id => "Connection(ConnectionId(" ++ toString id ++ "))"

/-! ## Lemmas -/

theorem toNat_token (source : Source) :
    source.token.toNat = source.tag * tagUnit + source.id % tagUnit := by
  have h : source.id % tagUnit < tagUnit := Nat.mod_lt _ (by decide)
  have ht : source.tag ≤ 2 := by cases source <;> simp [tag]
  have hu : tagUnit = 72057594037927936 := rfl
  simp only [token, UInt64.toNat_ofNat']
  apply Nat.mod_eq_of_lt
  rw [hu] at h ⊢
  omega

theorem tag_div {k id : Nat} (h : id < tagUnit) : (k * tagUnit + id) / tagUnit = k := by
  rw [Nat.mul_comm, Nat.mul_add_div (by decide), Nat.div_eq_of_lt h, Nat.add_zero]

theorem tag_mod {k id : Nat} (h : id < tagUnit) : (k * tagUnit + id) % tagUnit = id := by
  rw [Nat.mul_comm, Nat.mul_add_mod, Nat.mod_eq_of_lt h]

/-- A source whose number fits comes back from its token. -/
theorem ofToken?_token {source : Source} (h : source.id < tagUnit) :
    ofToken? source.token = some source := by
  have ht := toNat_token source
  rw [Nat.mod_eq_of_lt h] at ht
  cases source with
  | listener id => rw [ofToken?, ht, tag_div h, tag_mod h]; rfl
  | connection id => rw [ofToken?, ht, tag_div h, tag_mod h]; rfl

/-- A word that names a source is that source's token. -/
theorem token_of_ofToken? {word : UInt64} {source : Source} (h : ofToken? word = some source) :
    source.token = word := by
  have hu : tagUnit = 72057594037927936 := rfl
  have hw := word.toNat_lt
  apply UInt64.toNat_inj.1
  rw [toNat_token]
  unfold ofToken? at h
  simp only [hu] at h ⊢
  split at h
  next h1 =>
    simp only [Option.some.injEq] at h
    subst h
    simp only [tag, Source.id]
    omega
  next =>
    split at h
    next h2 =>
      simp only [Option.some.injEq] at h
      subst h
      simp only [tag, Source.id]
      omega
    next => simp at h

end Source

end RdmaLink
