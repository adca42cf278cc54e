/-!
# Answers of the network

A request is answered with a code and a body, which may break off, or not at all. Only a code from
200 to 299 stands for success.
-/

namespace ReleaseWatch

/-- What comes of a request. -/
inductive Answer where
  | unreachable
  /-- A code with as much of the body as arrived, and whether that is all of it. -/
  | reply (code : Int) (body : String) (isWhole : Bool)
  deriving DecidableEq

namespace Answer

/-- The answer of a server that knows nothing under an address. -/
def notFound : Answer := .reply 404 "" true

/-- Whether a code stands for success. -/
def isSuccess (code : Int) : Bool :=
  200 ≤ code && code < 300

/-- The body of a successful answer that arrived as a whole. -/
def body? : Answer → Option String
  | .unreachable => none
  | .reply code body isWhole => if isSuccess code && isWhole then some body else none

end Answer

/-- A network that answers each address with the answers laid out for it, one after the other. -/
structure Network where
  answers : List (String × List Answer) := []

namespace Network

/-- The answers left for an address, with the first one taken. -/
def take (url : String) : List (String × List Answer) → Answer × List (String × List Answer)
  | [] => (.notFound, [])
  | (known, answers) :: rest =>
      if known = url then
        match answers with
        | [] => (.notFound, (known, []) :: rest)
        | answer :: later => (answer, (known, later) :: rest)
      else
        let (answer, others) := take url rest
        (answer, (known, answers) :: others)

/-- The answer to a request, and the network after it. -/
def request (network : Network) (url : String) : Answer × Network :=
  let (answer, answers) := take url network.answers
  (answer, { answers })

end Network

end ReleaseWatch
