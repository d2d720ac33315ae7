import BoarPack.EventLogs.Service
import BoarPack.WebsocketClient.Service
import BoarPack.Websockets.Frames

/-! The frames that `WebsocketClient.onMessage` reads: JSON of any shape, of which an error event names the
reason of a `close`. `JSON.parse` and the text of a number are given. -/
namespace BoarPack.WebsocketClient
open EventLogs (Json)
open Websockets (Ending Orderly Handlers WsErrorCodes utf8Length)

variable {P V : Type}

/-- A member of a value that is neither `undefined` nor `null`. -/
def field (value : Json) (key : String) : Option Json :=
  match value with
  | .obj fields => Containers.get fields key
  | _ => none

def readField (value : Option Json) (key : String) : Except String (Option Json) :=
  match value with
  | none => .error s!"Cannot read properties of undefined (reading '{key}')"
  | some .null => .error s!"Cannot read properties of null (reading '{key}')"
  | some value => .ok (field value key)

def isText (value : Option Json) (text : String) : Bool :=
  match value with
  | some (.str value) => value = text
  | _ => false

mutual

/-- `String(value)`; a `toString` that came with the JSON is no function. -/
def text (numberText : Rat → String) : Json → Option String
  | .null => some "null"
  | .bool value => some (if value then "true" else "false")
  | .num value => some (numberText value)
  | .str value => some value
  | .arr items => (texts numberText items).map (String.intercalate ",")
  | .obj fields => if (Containers.get fields "toString").isSome then none else some "[object Object]"

def texts (numberText : Rat → String) : List Json → Option (List String)
  | [] => some []
  | .null :: rest => (texts numberText rest).map (fun others => "" :: others)
  | item :: rest => (text numberText item).bind
    (fun first => (texts numberText rest).map (fun others => first :: others))

end

/-- `this.socket?.close(code, reason)`. -/
def Client.closeWith (client : Client P) (code : WsErrorCodes) (reason : String) : Ending V :=
  if client.socket.isSome then Websockets.closeWith code reason else .dropped

/-- The branch of an error event, up to `message.error`. -/
def onError (numberText : Rat → String) (client : Client P) (msg : Json) : Ending Json :=
  match readField (field msg "data") "message" with
  | .error message => .threw message
  | .ok none => client.closeWith .errorMessage ""
  | .ok (some value) =>
    match text numberText value with
    | none => .threw "Cannot convert object to primitive value"
    | some reason => client.closeWith .errorMessage reason

def onMessage (parse : String → Option Json) (numberText : Rat → String) (client : Client P) (data : String) :
    Ending Json :=
  match parse data with
  | none => client.closeWith .invalidJson "Invalid JSON"
  | some msg =>
    match readField (some msg) "event" with
    | .error message => .threw message
    | .ok event => if isText event "error" then onError numberText client msg else .dispatched msg

def isError (msg : Json) : Bool := isText (field msg "event") "error"

/-- The data of an error event is there, and the text of its message fits. -/
def Reasoned (numberText : Rat → String) (msg : Json) : Prop :=
  ∃ payload, field msg "data" = some payload ∧ payload ≠ .null ∧
    ∀ value ∈ field payload "message", ∃ reason, text numberText value = some reason ∧ utf8Length reason ≤ 123

/-- The frame is not `null`, its error can be given as a reason, and where the socket has to be closed there is one. -/
structure Fits (parse : String → Option Json) (numberText : Rat → String) (client : Client P) (data : String) :
    Prop where
  object : parse data ≠ some .null
  error : ∀ msg, parse data = some msg → isError msg = true → Reasoned numberText msg
  held : client.socket = none → ∃ msg, parse data = some msg ∧ isError msg = false

theorem orderly_closeWith (client : Client P) (parsed : Option V) (code : WsErrorCodes) (reason : String)
    (own : code = .invalidJson ∨ code = .errorMessage) :
    Orderly parsed (client.closeWith code reason) ↔ client.socket.isSome = true ∧ utf8Length reason ≤ 123 := by
  unfold Client.closeWith
  split
  next held =>
    rw [Websockets.orderly_closeWith parsed code reason own]
    exact ⟨fun fits => ⟨held,fits⟩,And.right⟩
  next gone => exact iff_of_false id (fun both => gone both.1)

private theorem orderly_onError (numberText : Rat → String) (client : Client P) (msg : Json) (parsed : Option Json) :
    Orderly parsed (onError numberText client msg) ↔ client.socket.isSome = true ∧ Reasoned numberText msg := by
  unfold onError Reasoned
  cases data : field msg "data" with
  | none => exact iff_of_false id (by simp)
  | some payload =>
    by_cases missing : payload = .null
    · subst missing
      exact iff_of_false id (by simp)
    · have read : readField (some payload) "message" = .ok (field payload "message") := by
        cases payload with
        | null => exact absurd rfl missing
        | _ => rfl
      rw [read]
      cases message : field payload "message" with
      | none =>
        have closes := orderly_closeWith client parsed .errorMessage "" (Or.inr rfl)
        simp [closes,missing,message,Websockets.empty_fits]
      | some value =>
        cases converted : text numberText value with
        | none =>
          simp only [converted]
          exact iff_of_false id (by simp [message,converted])
        | some reason =>
          have closes := orderly_closeWith client parsed .errorMessage reason (Or.inr rfl)
          simp [closes,missing,message,converted]

theorem onMessage_orderly_iff (parse : String → Option Json) (numberText : Rat → String) (client : Client P)
    (data : String) :
    Orderly (parse data) (onMessage parse numberText client data) ↔ Fits parse numberText client data := by
  unfold onMessage
  cases parsed : parse data with
  | none =>
    rw [orderly_closeWith client none .invalidJson "Invalid JSON" (Or.inl rfl)]
    constructor
    · intro closed
      refine ⟨by simp [parsed],fun msg found => ?_,fun gone => ?_⟩
      · rw [parsed] at found
        cases found
      · rw [gone] at closed
        cases closed.1
    · intro fits
      refine ⟨?_,Websockets.invalid_json_fits⟩
      by_contra gone
      obtain ⟨msg,found,_⟩ := fits.held (by simpa using gone)
      rw [parsed] at found
      cases found
  | some msg =>
    by_cases empty : msg = .null
    · subst empty
      exact iff_of_false id (fun fits => fits.object parsed)
    · have read : readField (some msg) "event" = .ok (field msg "event") := by
        cases msg with
        | null => exact absurd rfl empty
        | _ => rfl
      simp only [read]
      change Orderly (some msg) (if isError msg = true then onError numberText client msg else .dispatched msg) ↔ _
      split
      next failed =>
        rw [orderly_onError]
        constructor
        · intro told
          refine ⟨by simpa [parsed] using empty,fun other found _ => ?_,fun gone => ?_⟩
          · obtain rfl := Option.some.inj (parsed.symm.trans found)
            exact told.2
          · rw [gone] at told
            cases told.1
        · intro fits
          refine ⟨?_,fits.error msg parsed failed⟩
          by_contra gone
          obtain ⟨other,found,fine⟩ := fits.held (by simpa using gone)
          obtain rfl := Option.some.inj (parsed.symm.trans found)
          rw [failed] at fine
          cases fine
      next fine =>
        have good : isError msg = false := Bool.eq_false_iff.mpr fine
        refine iff_of_true rfl ⟨by simpa [parsed] using empty,fun other found failed => ?_,fun _ => ⟨msg,parsed,good⟩⟩
        obtain rfl := Option.some.inj (parsed.symm.trans found)
        exact absurd failed fine

/-- The handlers of both sides end in order exactly for the frames that fit, and so does an `onOpen` that rejects. -/
theorem frames_end_orderly_iff (serverParse : String → Option V) (config : Handlers V) (msg : String)
    (parse : String → Option Json) (numberText : Rat → String) (client : Client P) (data : String)
    (thrown : Option String) :
    (Orderly (serverParse msg) (Websockets.onMessage serverParse config msg) ↔ Websockets.Fits serverParse config msg) ∧
    (Orderly (parse data) (onMessage parse numberText client data) ↔ Fits parse numberText client data) ∧
    ((∃ reason, (Websockets.onOpenRejected thrown : Ending V) = .closed 4001 reason) ↔
      ∃ reason, thrown = some reason ∧ utf8Length reason ≤ 123) :=
  ⟨Websockets.onMessage_orderly_iff serverParse config msg,onMessage_orderly_iff parse numberText client data,
    Websockets.onOpenRejected_closes_iff thrown⟩

def withoutData : String := "\x7b\"event\":\"error\"\x7d"

def parsesOne (text : String) : Option Json :=
  if text = withoutData then some (.obj [("event",.str "error")]) else none

def echoing : Handlers String := ⟨false,some (fun text => .ok (some text))⟩

private theorem echoing_orderly (reason : String) :
    Orderly (some reason) (Websockets.onMessage some echoing reason) ↔ utf8Length reason ≤ 123 := by
  rw [show some reason = (some : String → Option String) reason from rfl,Websockets.onMessage_orderly_iff]
  constructor
  · intro fits
    obtain ⟨errorMessage,read,short⟩ := fits.error reason rfl
    obtain rfl := Except.ok.inj read
    exact short reason rfl
  · intro short
    constructor
    · intro invalid
      cases invalid
    · intro event found
      obtain rfl := Option.some.inj found
      exact ⟨some reason,rfl,by simpa using short⟩

/-- An error event without data throws in the browser, and a reason of 124 bytes in the server. -/
theorem unfit_frames_throw :
    ¬ Orderly (parsesOne withoutData) (onMessage parsesOne (fun _ => "0") (Client.initial : Client Unit) withoutData) ∧
    ¬ Orderly (some (String.ofList (List.replicate 124 'a')))
      (Websockets.onMessage some echoing (String.ofList (List.replicate 124 'a'))) := by
  constructor
  · exact id
  · rw [echoing_orderly]
    unfold utf8Length
    rw [String.toList_ofList,List.map_replicate,List.sum_replicate]
    decide

end BoarPack.WebsocketClient
