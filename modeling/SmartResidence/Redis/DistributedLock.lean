import SmartResidence.Billing.Schema
import SmartResidence.Foundation.Runs
import Mathlib.Logic.Function.Basic

/-!
# `distributed-lock.service.ts`
-/

namespace SmartResidence.Redis

open Foundation Billing

structure LockEntry where
  token : String
  expiresAt : Instant
  deriving DecidableEq

inductive LockEnd
  | refused
  | released (returned : Bool)
  | failed
  deriving DecidableEq

inductive LockPhase
  | setting
  | acquired
  | running (since : Instant)
  | releasing (returned : Bool)
  | ended (how : LockEnd)
  deriving DecidableEq

/-- A call of `withLock`, and when Redis has set the lock for it. -/
structure LockCall where
  key : String
  ttlSeconds : Nat
  token : String
  phase : LockPhase
  setAt : Option Instant
  deriving DecidableEq

structure LockState where
  clock : Instant
  entries : String → Option LockEntry
  calls : List LockCall

def LockCall.lockKey (call : LockCall) : String := "lock:" ++ call.key

def LockCall.ttl (call : LockCall) : Instant := call.ttlSeconds * 1000

namespace LockState

variable (state : LockState)

def get (key : String) : Option String :=
  ((state.entries key).filter fun entry => decide (state.clock ≤ entry.expiresAt)).map LockEntry.token

def setEx (key token : String) (ttl : Instant) : LockState :=
  { state with entries := Function.update state.entries key (some ⟨token, state.clock + ttl⟩) }

def deleteOwn (key token : String) : LockState :=
  if state.get key = some token then { state with entries := Function.update state.entries key none } else state

def call? (place : Nat) : Option LockCall := state.calls[place]?

def write (place : Nat) (call : LockCall) : LockState := { state with calls := state.calls.set place call }

end LockState

inductive RedisReply
  | arrives
  | lost
  | unsent
  deriving DecidableEq

/-- `SET key token EX ttl NX`; an expiry of zero is an error. -/
def LockState.setLock (state : LockState) (place : Nat) (call : LockCall) (reply : RedisReply) : LockState :=
  if reply = .unsent ∨ call.ttlSeconds = 0 then state.write place { call with phase := .ended .failed }
  else if (state.get call.lockKey).isSome then
    state.write place { call with phase := .ended (if reply = .arrives then .refused else .failed) }
  else
    (state.setEx call.lockKey call.token call.ttl).write place
      { call with phase := if reply = .arrives then .acquired else .ended .failed, setAt := some state.clock }

def LockState.release (state : LockState) (place : Nat) (call : LockCall) (returned : Bool) (reply : RedisReply) : LockState :=
  if reply = .unsent then state.write place { call with phase := .ended .failed }
  else (state.deleteOwn call.lockKey call.token).write place { call with phase := .ended (.released returned) }

inductive LockEvent
  | withLock (key : String) (ttlSeconds : Nat)
  | advance (ms : Nat)
  | redis (place : Nat) (reply : RedisReply)
  | start (place : Nat)
  | finish (place : Nat) (returned : Bool)

/-- `randomUUID` gives each call a token of its own. -/
def LockState.begin (randomUUID : Nat → String) (state : LockState) (key : String) (ttlSeconds : Nat) : LockState :=
  { state with calls := state.calls ++ [⟨key, ttlSeconds, randomUUID state.calls.length, .setting, none⟩] }

def LockState.move (state : LockState) (place : Nat) (step : LockCall → LockState) : LockState :=
  match state.call? place with
  | some call => step call
  | none => state

def LockState.next (randomUUID : Nat → String) (state : LockState) : LockEvent → LockState
  | .withLock key ttlSeconds => state.begin randomUUID key ttlSeconds
  | .advance ms => { state with clock := state.clock + ms }
  | .redis place reply => state.move place fun call =>
      match call.phase with
      | .setting => state.setLock place call reply
      | .releasing returned => state.release place call returned reply
      | _ => state
  | .start place => state.move place fun call =>
      match call.phase with
      | .acquired => state.write place { call with phase := .running state.clock }
      | _ => state
  | .finish place returned => state.move place fun call =>
      match call.phase with
      | .running _ => state.write place { call with phase := .releasing returned }
      | _ => state

def LockStep (randomUUID : Nat → String) (before : LockState) (event : LockEvent) (after : LockState) : Prop :=
  before.next randomUUID event = after

def LockState.fresh (clock : Instant) : LockState := ⟨clock, fun _ => none, []⟩

end SmartResidence.Redis
