/-!
Contract: the endpoint that observers read.

Owns: the paths of the health report and of the counters, the methods that read them, and
the answers.
-/

set_option autoImplicit false

namespace OrderKeeper

structure HttpResponse where
  status : Nat
  contentType : Option String
  body : String
deriving DecidableEq, Repr

namespace HttpResponse

def empty (status : Nat) : HttpResponse := ⟨status, none, ""⟩

/-- Whether a character may stand in the scheme of a target. -/
def isSchemeChar (c : Char) : Bool :=
  c.isAlphanum || c == '+' || c == '-' || c == '.'

/-- A target from its path on.  One with a scheme names an authority before its path. -/
def fromPath (target : List Char) : List Char :=
  match target.dropWhile isSchemeChar with
  | ':' :: '/' :: '/' :: rest =>
      match rest.dropWhile fun c => c != '/' && c != '?' && c != '#' with
      | '/' :: path => '/' :: path
      | tail => '/' :: tail
  | _ => target

/-- The path of a request target, without the query and the fragment. -/
def pathOf (target : String) : String :=
  String.ofList ((fromPath target.toList).takeWhile fun c => c != '?' && c != '#')

/-- Answers a reading request with a body, which a request for the head alone leaves out;
any other method is not allowed. -/
def serve (method contentType body : String) : HttpResponse :=
  if method = "GET" then ⟨200, some contentType, body⟩
  else if method = "HEAD" then ⟨200, some contentType, ""⟩
  else empty 405

/-- Answers a request for the health report or for the counters. -/
def answer (method target health counters : String) : HttpResponse :=
  match pathOf target with
  | "/health" => serve method "application/json" health
  | "/metrics" => serve method "text/plain; charset=utf-8" counters
  | _ => empty 404

end HttpResponse

end OrderKeeper
