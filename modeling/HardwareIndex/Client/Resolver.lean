import HardwareIndex.Client.RemoteIndex
import HardwareIndex.Index.Session

/-!
# Resolvers

A resolver finds the record of a key that is given as a text. An index that is
held here reads the text and asks itself; a text that writes no key finds
nothing. An index that is held elsewhere goes through its client, which keeps
from call to call what it learns.
-/

namespace HardwareIndex

/-- A key as a text of one kind. -/
structure WrittenKey where
  space : KeySpace
  text : String
  deriving DecidableEq, Repr

namespace WrittenKey

/-- What a call gives for each kind when it gives this key alone. -/
def alone (key : WrittenKey) : PerSpace (Option String) :=
  match key.space with
  | .mac => ⟨some key.text, none⟩
  | .uuid => ⟨none, some key.text⟩

/-- The query that a key makes, if it can be read. -/
def query? (key : WrittenKey) : Option Query :=
  match key.space with
  | .mac => (Mac.parse key.text).toOption.map .byMac
  | .uuid => (Uuid.parse key.text).toOption.map .byUuid

end WrittenKey

/-- What an index that is held here replies to a written key. -/
def Session.resolve {R : Type} [Indexed R] (s : Session R) (id : Nat) (key : WrittenKey) :
    Reply R :=
  match key.query? with
  | some query => (s.step id (.ask query)).2.1
  | none => .returned (.found none)

/-- A client after several calls, each with the keys that it gives. -/
def Client.after (c : Client) (send : Transport) (calls : List (PerSpace (Option String))) :
    Client :=
  calls.foldl (fun c keys => (c.resolve send keys.mac keys.uuid).1) c

namespace RemoteIndex

variable {S R : Type} [Convertible S R]

/-- What an index that is held elsewhere answers to a written key. -/
def resolve (index : RemoteIndex S) (send : Transport) (key : WrittenKey) :
    RemoteIndex S × Except ResolveError (Option R) :=
  match key.space with
  | .mac =>
    let (index, answer, _) := index.byMac send key.text
    (index, answer)
  | .uuid =>
    let (index, answer, _) := index.byUuid send key.text
    (index, answer)

/-- The answers to several keys, one after the other. -/
def answers (index : RemoteIndex S) (send : Transport) :
    List WrittenKey → List (Except ResolveError (Option R))
  | [] => []
  | key :: keys =>
    let (index, answer) := index.resolve send key
    answer :: answers index send keys

end RemoteIndex

end HardwareIndex
