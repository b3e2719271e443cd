import Mathlib.Init

/-!
# Terms and messages of the lease owner

The owner is a process that answers messages, so its input is any term at all.
`Term` is the part of the term language the clause heads of `handle_info` look
at.  `Message.decode` is those heads: the patterns and guards of every clause,
in the order of the source.  A tuple that carries a protocol tag but fails its
clause becomes `malformed`, everything else `unknown`.

References and process identifiers are numbers.  Which numbers are already in
use is not fixed here but by the runs that hand them out.
-/

namespace VideoInterop.LeaseOwner

/-- A reference: the result of `make_ref`, `Process.alias`, `Process.monitor`
or a timer. -/
abbrev Ref := Nat

/-- A process of this node. -/
abbrev Pid := Nat

/-- The tags of the messages the owner knows. -/
inductive Tag where
  | reserveIssue
  | commitIssue
  | cancelIssueReservation
  | confirmIssue
  | cancelIssue
  | retain
  | confirmRetain
  | cancelRetain
  | release
  | abandoned
  | drain
  | cancelDrain
  | retryRelease
  | releaseResult
deriving DecidableEq, Repr

/-- Is the tag in the list of the catch-all clause, so that a tuple that fails
its own clause is counted?  The result of a release is not: a result from an
old executor falls through in silence. -/
def Tag.counted : Tag → Bool
  | .releaseResult => false
  | _ => true

/-- The atoms the owner tells apart. -/
inductive Atom where
  | nil
  | ok
  | error
  | down
  | exit
  | process
  | tag (tag : Tag)
  /-- Any other atom. -/
  | named (id : Nat)
deriving DecidableEq, Repr

/-- A term.  Backend tokens, metadata and the reasons of failures are terms the
owner never looks into. -/
inductive Term where
  | atom (atom : Atom)
  | integer (value : Int)
  | reference (ref : Ref)
  /-- A process of this node. -/
  | pid (pid : Pid)
  /-- A process of another node, `node(pid) != node()`. -/
  | remotePid (pid : Pid)
  | tuple (elements : List Term)
  /-- A term of any other type. -/
  | other (id : Nat)
deriving Inhabited

/-- What a release callback came to, after `invoke_release` normalized it. -/
inductive CallbackResult where
  | ok (value : Term)
  | error (reason : Term)
  /-- No clause of the `case` accepts it. -/
  | invalid (result : Term)

/-- The `case callback_result` patterns. -/
def CallbackResult.decode : Term → CallbackResult
  | .tuple [.atom .ok, value] => .ok value
  | .tuple [.atom .error, reason] => .error reason
  | result => .invalid result

/-- A message as the clause heads of `handle_info` see it. -/
inductive Message where
  | reserveIssue (metadata : Term) (replyTo : Pid) (requestRef : Ref)
  | commitIssue (reservation : Ref) (backendToken : Term) (replyTo : Pid) (requestRef : Ref)
  | cancelIssueReservation (requestRef : Ref)
  | abandoned (token holder : Ref)
  | confirmIssue (token requestRef : Ref)
  | cancelIssue (requestRef : Ref)
  | retain (token parentHolder childHolder : Ref) (replyTo : Pid) (requestRef : Ref)
  | confirmRetain (token childHolder requestRef : Ref)
  | cancelRetain (token childHolder : Ref)
  | release (token holder : Ref)
  | drain (replyTo : Pid) (requestRef : Ref)
  | cancelDrain (requestRef : Ref)
  | releaseResult (executor : Pid) (token generation : Ref) (result : CallbackResult)
      (durationNs : Nat)
  | retryRelease (token generation : Ref)
  /-- The monitor reference of a forged signal need not be a reference: `none`
  stands for the atom `nil`. -/
  | down (monitorRef : Option Ref) (reason : Term)
  /-- As for `down`, the process of a forged signal may be `nil`. -/
  | exit (process : Option Pid)
  /-- A tuple with a counted tag that fails every clause for it. -/
  | malformed
  /-- Anything else. -/
  | unknown

/-- The clause heads of `handle_info`, in source order.  The clause for a
release result also compares the executor, which is left to the handler. -/
def Message.decode : Term → Message
  | .tuple [.atom (.tag .reserveIssue), metadata, .pid replyTo, .reference requestRef] =>
      .reserveIssue metadata replyTo requestRef
  | .tuple [.atom (.tag .commitIssue), .reference reservation, backendToken, .pid replyTo,
        .reference requestRef] =>
      .commitIssue reservation backendToken replyTo requestRef
  | .tuple [.atom (.tag .cancelIssueReservation), .reference requestRef] =>
      .cancelIssueReservation requestRef
  | .tuple [.atom (.tag .abandoned), .reference token, .reference holder] =>
      .abandoned token holder
  | .tuple [.atom (.tag .confirmIssue), .reference token, .reference requestRef] =>
      .confirmIssue token requestRef
  | .tuple [.atom (.tag .cancelIssue), .reference requestRef] =>
      .cancelIssue requestRef
  | .tuple [.atom (.tag .retain), .reference token, .reference parentHolder,
        .reference childHolder, .pid replyTo, .reference requestRef] =>
      .retain token parentHolder childHolder replyTo requestRef
  | .tuple [.atom (.tag .confirmRetain), .reference token, .reference childHolder,
        .reference requestRef] =>
      .confirmRetain token childHolder requestRef
  | .tuple [.atom (.tag .cancelRetain), .reference token, .reference childHolder] =>
      .cancelRetain token childHolder
  | .tuple [.atom (.tag .release), .reference token, .reference holder] =>
      .release token holder
  | .tuple [.atom (.tag .drain), .pid replyTo, .reference requestRef] =>
      .drain replyTo requestRef
  | .tuple [.atom (.tag .cancelDrain), .reference requestRef] =>
      .cancelDrain requestRef
  | .tuple [.atom (.tag .releaseResult), .pid executor, .reference token,
        .reference generation, result, .integer (.ofNat durationNs)] =>
      .releaseResult executor token generation (.decode result) durationNs
  | .tuple [.atom (.tag .retryRelease), .reference token, .reference generation] =>
      .retryRelease token generation
  | .tuple [.atom .down, .reference monitorRef, .atom .process, _, reason] =>
      .down (some monitorRef) reason
  | .tuple [.atom .down, .atom .nil, .atom .process, _, reason] => .down none reason
  | .tuple [.atom .exit, .pid process, _] => .exit (some process)
  | .tuple [.atom .exit, .atom .nil, _] => .exit none
  | .tuple (.atom (.tag tag) :: _) => if tag.counted then .malformed else .unknown
  | _ => .unknown

end VideoInterop.LeaseOwner
