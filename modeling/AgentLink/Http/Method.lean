import AgentLink.Text.Case

/-!
# Request methods

The client speaks five methods (`Http.Method`). A method is named case-insensitively: a name
stands for a method when its upper case is the method's name, where the upper case of a
character is the full Unicode mapping (`Text.upperAscii?`), so that the long s of `poſt` reads
as `S`. Only the few characters that map into ASCII letters can matter here.
-/

namespace AgentLink.Http

/-- A request method the client can send. -/
inductive Method where
  | get
  | post
  | put
  | patch
  | delete
  deriving DecidableEq, Repr, Inhabited

/-- The method's name on the wire. -/
def Method.name : Method → String
  | .get => "GET"
  | .post => "POST"
  | .put => "PUT"
  | .patch => "PATCH"
  | .delete => "DELETE"

/-- Every method, in the order the client lists them. -/
def Method.all : List Method := [.get, .post, .put, .patch, .delete]

/-- Whether a request of this method carries its body: all but `GET` and `DELETE`. -/
def Method.sendsBody : Method → Bool
  | .get | .delete => false
  | _ => true

/-- Whether a request of this method states a length even when it has no body. -/
def Method.statesLength : Method → Bool
  | .post | .put | .patch => true
  | _ => false

/-- The method a name stands for: the one whose name is the name's upper case. -/
def Method.ofName? (s : String) : Option Method := do
  let up ← Text.upperAsciiText? s
  Method.all.find? (·.name == up)

end AgentLink.Http
