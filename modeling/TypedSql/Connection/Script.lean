import TypedSql.Connection

/-!
# Scripted connections

A scripted connection answers its operations from a list of replies, one after
the other, and keeps a log of what it was asked.
-/

namespace TypedSql

/-- What a connection was asked to do. -/
inductive Request where
  | query (sql : String) (parameters : List Datum)
  | exec (sql : String) (parameters : List Datum)
  | commit
  | tableExists (name : String)
deriving DecidableEq

/-- The answer to a request of any sort: it fails, or yields whichever of the
other fields the request asks for. -/
structure Reply where
  failure : Option String
  rows : List Row
  count : Nat
  present : Bool

/-- Success, with nothing to tell. -/
def Reply.blank : Reply :=
  { failure := none, rows := [], count := 0, present := false }

structure Script where
  /-- Replies still to be given. -/
  replies : List Reply
  /-- Requests so far, in order. -/
  log : List Request

namespace Script

def ofReplies (replies : List Reply) : Script :=
  { replies := replies, log := [] }

/-- Logs a request and takes the next reply, or a blank one when none is
left. -/
def nextReply (request : Request) : StateM Script Reply :=
  modifyGet fun script =>
    (script.replies.headD Reply.blank,
      { replies := script.replies.tail, log := script.log ++ [request] })

/-- Makes a request, and takes its answer from the reply unless that is a
failure. -/
def ask {α : Type} (request : Request) (answer : Reply → α) :
    EngineM Script String α := do
  let reply ← nextReply request
  match reply.failure with
  | some failure => throw failure
  | none => return answer reply

def connection : Connection Script where
  query sql parameters := ask (.query sql parameters) Reply.rows
  exec sql parameters := ask (.exec sql parameters) Reply.count
  commit := ask .commit fun _ => ()
  tableExists name := ask (.tableExists name) Reply.present

end Script

end TypedSql
