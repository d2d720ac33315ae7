import BoarPack.Websockets.Clients
import Mathlib.Algebra.BigOperators.Group.List.Basic
import Mathlib.Algebra.GroupWithZero.Nat

/-! What the message and open handlers of `WebsocketsClients.connect` do with the text of a peer: it may
become the reason of a `close`, which takes 123 bytes at most. What the parser makes of a frame is given. -/
namespace BoarPack.Websockets

inductive WsErrorCodes
  | connectionClosed
  | invalidJson
  | errorMessage
  | unauthorized
  deriving DecidableEq, Repr

def WsErrorCodes.code : WsErrorCodes → Nat
  | connectionClosed => 1000
  | invalidJson => 4000
  | errorMessage => 4001
  | unauthorized => 4003

/-- How a handler ends: with the subscriber called, the socket closed, neither, or an error. -/
inductive Ending (V : Type)
  | dispatched (event : V)
  | closed (code : Nat) (reason : String)
  | dropped
  | threw (message : String)
  deriving DecidableEq, Repr

variable {V : Type}

def utf8Length (text : String) : Nat := (text.toList.map Char.utf8Size).sum

/-- `ws.close(code, reason)`. -/
def closeWith (code : WsErrorCodes) (reason : String) : Ending V :=
  if utf8Length reason ≤ 123 then .closed code.code reason
  else .threw "The message must not be greater than 123 bytes"

/-- The subscriber gets what was parsed, or the socket is closed with 4000 or 4001. -/
def Orderly (parsed : Option V) : Ending V → Prop
  | .dispatched event => parsed = some event
  | .closed code _ => code = 4000 ∨ code = 4001
  | .dropped => False
  | .threw _ => False

/-- `getEventError` is the application's; it may throw, with a message. -/
structure Handlers (V : Type) where
  ignoreInvalidJson : Bool
  getEventError : Option (V → Except String (Option String))

def Handlers.eventError (config : Handlers V) (event : V) : Except String (Option String) :=
  match config.getEventError with
  | none => .ok none
  | some getEventError => getEventError event

def onMessage (parse : String → Option V) (config : Handlers V) (msg : String) : Ending V :=
  match parse msg with
  | none => if config.ignoreInvalidJson then .dropped else closeWith .invalidJson "Invalid JSON"
  | some event =>
    match config.eventError event with
    | .error message => .threw message
    | .ok none => .dispatched event
    | .ok (some errorMessage) => if errorMessage ≠ "" then closeWith .errorMessage errorMessage else .dispatched event

/-- Where `onOpen` rejects; `text` is `String(e)`, which may throw. -/
def onOpenRejected (text : Option String) : Ending V :=
  match text with
  | none => .threw "Cannot convert object to primitive value"
  | some text => closeWith .errorMessage text

/-- Invalid JSON is not ignored, and the error of an event is read without an error of its own and fits. -/
structure Fits (parse : String → Option V) (config : Handlers V) (msg : String) : Prop where
  invalid : parse msg = none → config.ignoreInvalidJson = false
  error : ∀ event, parse msg = some event →
    ∃ errorMessage, config.eventError event = .ok errorMessage ∧ ∀ text ∈ errorMessage, utf8Length text ≤ 123

theorem orderly_closeWith (parsed : Option V) (code : WsErrorCodes) (reason : String)
    (own : code = .invalidJson ∨ code = .errorMessage) :
      Orderly parsed (closeWith code reason) ↔ utf8Length reason ≤ 123 := by
  unfold closeWith
  split
  next fits =>
    refine iff_of_true ?_ fits
    rcases own with rfl | rfl
    · exact Or.inl rfl
    · exact Or.inr rfl
  next long => exact iff_of_false id long

theorem invalid_json_fits : utf8Length "Invalid JSON" ≤ 123 := by decide

theorem empty_fits : utf8Length "" ≤ 123 := by decide

theorem onMessage_orderly_iff (parse : String → Option V) (config : Handlers V) (msg : String) :
    Orderly (parse msg) (onMessage parse config msg) ↔ Fits parse config msg := by
  unfold onMessage
  cases parsed : parse msg with
  | none =>
    have reads : Fits parse config msg ↔ config.ignoreInvalidJson = false := by
      refine ⟨fun fits => fits.invalid parsed,fun kept => ⟨fun _ => kept,fun event found => ?_⟩⟩
      rw [parsed] at found
      cases found
    rw [reads]
    cases config.ignoreInvalidJson with
    | true => exact iff_of_false id (by simp)
    | false => exact iff_of_true ((orderly_closeWith none .invalidJson _ (Or.inl rfl)).mpr invalid_json_fits) rfl
  | some event =>
    have reads : Fits parse config msg ↔
        ∃ errorMessage, config.eventError event = .ok errorMessage ∧ ∀ text ∈ errorMessage, utf8Length text ≤ 123 := by
      refine ⟨fun fits => fits.error event parsed,fun short => ⟨fun nothing => ?_,fun other found => ?_⟩⟩
      · rw [parsed] at nothing
        cases nothing
      · obtain rfl := Option.some.inj (parsed.symm.trans found)
        exact short
    rw [reads]
    cases read : config.eventError event with
    | error message =>
      simp only [read]
      exact iff_of_false id (by simp)
    | ok errorMessage =>
      simp only [read,Except.ok.injEq,exists_eq_left']
      cases errorMessage with
      | none => exact iff_of_true rfl (by simp)
      | some text =>
        simp only [Option.mem_def,Option.some.injEq,forall_eq']
        split
        · exact orderly_closeWith (some event) .errorMessage text (Or.inr rfl)
        next empty =>
          have nothing : text = "" := by simpa using empty
          exact iff_of_true rfl (nothing ▸ empty_fits)

theorem onOpenRejected_closes_iff (text : Option String) :
    (∃ reason, (onOpenRejected text : Ending V) = .closed 4001 reason) ↔ ∃ reason, text = some reason ∧
      utf8Length reason ≤ 123 := by
  cases text with
  | none => simp [onOpenRejected]
  | some reason =>
    simp only [onOpenRejected,closeWith,Option.some.injEq,exists_eq_left']
    split
    next fits => exact iff_of_true ⟨reason,rfl⟩ fits
    next long => exact iff_of_false (by simp) long

end BoarPack.Websockets
