import SmpClient.Machine.Basic

/-!
# Scripts for devices

A script says how a device and the link to it behave: which replies requests get, in which order
requests that are sent ahead are processed, and what happens to the link meanwhile.
-/

namespace SmpClient

namespace Bench

/-- When a device that sends a file announces its length. -/
inductive Announcement
  | first
  | always
  | never
  deriving DecidableEq, Inhabited

/-- What a reply is made of. -/
inductive Content
  /-- The link fails. -/
  | failure (error : Error)
  /-- A whole packet. -/
  | raw (packet : Bytes)
  | payload (payload : Bytes)
  /-- A device that stores chunks, taking at most `limit` bytes of each or, with `drop`, nothing,
  and that reports an offset off by `skew`. -/
  | store (limit : Option Nat) (drop : Bool) (skew : Int)
  /-- A device that sends a file in chunks. -/
  | file (content : Bytes) (chunk : Nat) (announcement : Announcement)
  deriving Inhabited

/-- How the header of a reply differs from the one that the request asks for. -/
structure HeaderChange where
  version : Option UInt8 := none
  op : Option Op := none
  flags : Option UInt8 := none
  lengthAdded : Int := 0
  group : Option UInt16 := none
  seqAdded : Int := 0
  id : Option UInt8 := none
  deriving Inhabited

/-- One scripted reply. -/
structure ScriptedReply where
  content : Content
  change : HeaderChange := {}
  /-- Leaves out the header that a payload would carry. -/
  withoutHeader : Bool := false
  /-- What the owner does while the reply is on its way. -/
  signal : Option Signal := none
  /-- Whether the link goes down after the reply. -/
  disconnects : Bool := false
  deriving Inhabited

/-- Replies for the requests of some kind. -/
structure Rule where
  group : Option UInt16 := none
  id : Option UInt8 := none
  op : Option Op := none
  replies : List ScriptedReply
  /-- Whether the last reply is given again and again. -/
  repeats : Bool := false
  deriving Inhabited

namespace Rule

/-- Whether the rule is for requests with this header. -/
def isFor (rule : Rule) (request : Header) : Bool :=
  rule.group.all (· == request.group) && rule.id.all (· == request.id) &&
    rule.op.all (· == request.op)

/-- The next reply, and the rule without it. -/
def take? (rule : Rule) : Option (ScriptedReply × Rule) :=
  match rule.replies with
  | [] => none
  | [last] => some (last, if rule.repeats then rule else { rule with replies := [] })
  | next :: rest => some (next, { rule with replies := rest })

/-- The reply of the first rule that is for a request and has one left, and the rules after. -/
def replyFrom? (request : Header) : List Rule → Option (ScriptedReply × List Rule)
  | [] => none
  | rule :: rest =>
      match if rule.isFor request then rule.take? else none with
      | some (reply, rule) => some (reply, rule :: rest)
      | none => (replyFrom? request rest).map fun (reply, rest) => (reply, rule :: rest)

end Rule

/-- The orders in which requests that were sent ahead are processed and acknowledged. -/
structure Batch where
  order : List Nat
  acknowledged : List Nat
  deriving Inhabited

/-- How a connection attempt ends. -/
inductive Connecting
  | succeeds
  | fails (error : Error)
  /-- Nobody is told how it ended. -/
  | lost
  deriving Inhabited

/-- The behaviour of a link and the device behind it. -/
structure Script where
  scheme : Scheme
  mtu : Nat := 512
  /-- The longest packet that the link takes, if it is not the announced one. -/
  linkMtu : Option Nat := none
  rules : List Rule := []
  batches : List Batch := []
  connecting : Connecting := .succeeds
  deriving Inhabited

end Bench

end SmpClient
