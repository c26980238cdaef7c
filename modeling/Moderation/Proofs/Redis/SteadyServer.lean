import Moderation.Proofs.Result
import Moderation.Redis.Store

/-!
# `Moderation.Proofs.Redis.SteadyServer`: a server that never fails

The server that a store hopes for: it holds whole numbers of any size under names, and answers every
command. It adds to an absent number as if it were zero, and keeps a sum that is zero. How it writes
a number is left open, as long as what it writes is read as that number.

* `outcome_get`, `outcome_getMany`, `outcome_set` and `outcome_increment`: what a store on this
  server replies, and what the server holds afterwards.
-/

set_option autoImplicit false

namespace Moderation.Redis

open Store

/-- A session whose result is changed afterwards. -/
theorem Client.outcome_map {σ β γ : Type} (client : Client σ) (f : β → γ) (session : Session β)
    (state : σ) :
    (client.run (f <$> session)).outcome state
      = (((client.run session).outcome state).1.map f, ((client.run session).outcome state).2) := by
  show (Dialogue.run client.answer (ExceptT.run (f <$> session))).run state = _
  rw [ExceptT.run_map, map_eq_pure_bind, Dialogue.run_bind]
  rfl

/-- A server that never fails. -/
structure SteadyServer where
  /-- How a number is written in a reply. -/
  write : Int → Value
  toWhole_write : ∀ n, (write n).toWhole = .ok n
  /-- Whether a name fits a pattern. -/
  fits : (pattern name : String) → Bool

namespace SteadyServer

/-- A server that writes numbers in decimal, as far as these are read. -/
def inDecimal : SteadyServer where
  write n :=
    match (Value.text (toString n)).toWhole with
    | .ok m => if m = n then .text (toString n) else .int n
    | .error _ => .int n
  toWhole_write n := by
    cases h : (Value.text (toString n)).toWhole with
    | error e => rfl
    | ok m =>
      by_cases same : m = n
      · simp only [same, if_true]
        rw [h, same]
      · simp only [same, if_false]
        rfl
  fits pattern name := pattern.toList.dropLast.isPrefixOf name.toList

/-- The reply to a look-up: the number that is held, or null. -/
def lookup (server : SteadyServer) (content : Entries Int) (key : Value) : Value :=
  (content.get? key.display).elim .null server.write

/-- The reply to a command, and what is held after it. -/
def reply (server : SteadyServer) (content : Entries Int) :
    Command → Except Failure Value × Entries Int
  | .ping => (.ok (.text "PONG"), content)
  | .disconnect => (.ok .null, content)
  | .get key => (.ok (server.lookup content key), content)
  | .getMany keys => (.ok (.list (keys.map (server.lookup content))), content)
  | .set key value => (.ok (.switch true), content.set key.display value)
  | .add key delta =>
    match delta.toWhole with
    | .ok delta =>
      let sum := (content.get? key.display).getD 0 + delta
      (.ok (.int sum), content.set key.display sum)
    | .error _ => (.error ⟨.response, "value is not an integer or out of range"⟩, content)
  | .delete keys =>
    let kept := content.filter fun entry => !keys.any (·.display = entry.1)
    (.ok (.int (content.length - kept.length)), kept)

/-- The names that fit a pattern. -/
def scan (server : SteadyServer) (content : Entries Int) (pattern : String) : Finding :=
  some ((content.keys.filter (server.fits pattern)).map fun name => .ok (.text name))

/-- A client of the server. -/
def client (server : SteadyServer) : Client (Entries Int) where
  answer
    | .command c => fun content => server.reply content c
    | .scan pattern _ => fun content => (server.scan content pattern, content)
  content := id

variable (server : SteadyServer)

/-! ### What is read in a reply -/

/-- A number that is written is read back, and it is not written as null. -/
theorem numberIn_write (n : Int) : numberIn (server.write n) = .ok (some n) := by
  have read := server.toWhole_write n
  cases h : server.write n with
  | null =>
    rw [h] at read
    cases read
  | _ =>
    rw [h] at read
    rw [numberIn, read]
    · rfl
    · simp

/-- A look-up is read as the number that is held, if there is one. -/
theorem numberIn_lookup (content : Entries Int) (key : String) :
    numberIn (server.lookup content (.text key)) = .ok (content.get? key) := by
  show numberIn ((content.get? key).elim .null server.write) = _
  cases content.get? key with
  | none => rfl
  | some n => exact server.numberIn_write n

/-- The numbers in a reply are those that a store in memory with the same content gives. -/
theorem numbersIn_lookup (content : Entries Int) (keys : List String) :
    numbersIn (keys.map .text) ((keys.map .text).map (server.lookup content))
      = .ok (Value.Map.ofEntries (Memory.getMany content keys)) := by
  have entries : (keys.map fun key => (content.get? key).map (Value.text key, ·)).filterMap
        (fun pair => pair)
      = Value.Map.ofEntries (keys.filterMap fun key => (content.get? key).map (key, ·)) := by
    rw [Value.Map.ofEntries, List.filterMap_map, List.map_filterMap]
    congr 1
    funext key
    show (content.get? key).map _ = ((content.get? key).map _).map _
    rw [Option.map_map]
    rfl
  -- Each name is paired with its reply, and the replies without a number are left out.
  rw [numbersIn, List.map_map, List.zip_map', List.mapM_map,
    mapM_eq_ok (g := fun key => (content.get? key).map (Value.text key, ·)), ok_bind, entries]
  · show Except.ok (Value.Map.setAll (Value.Map.ofEntries []) (Value.Map.ofEntries _)) = _
    rw [Value.Map.setAll_ofEntries]
    rfl
  · intro key _
    rw [Function.comp_apply, Function.comp_apply, server.numberIn_lookup, ok_bind]
    cases content.get? key <;> rfl

/-! ### The store -/

variable (id : Nat) (batch : Value) (content : Entries Int)

/-- The store replies the number that the server holds. -/
theorem outcome_get (key : String) :
    ((store id server.client batch).answer (.get key)).outcome content
      = (.ok (content.get? key), content) := by
  show (numberIn (server.lookup content (.text key)), content) = _
  rw [server.numberIn_lookup]

/-- It replies many numbers as a store in memory does. -/
theorem outcome_getMany (keys : List String) :
    ((store id server.client batch).answer (.getMany keys)).outcome content
      = (.ok (Memory.getMany content keys), content) := by
  have found : (server.client.run (Session.findMany (.list (keys.map .text)))).outcome content
      = (.ok (Value.Map.ofEntries (Memory.getMany content keys)), content) := by
    -- For no names at all, the store does not ask the server.
    rw [← server.numbersIn_lookup]
    cases keys <;> rfl
  show (server.client.run (Value.Map.named <$> Session.findMany _)).outcome content = _
  rw [Client.outcome_map, found]
  show (Except.ok (Value.Map.named (Value.Map.ofEntries _)), content) = _
  rw [Value.Map.named_ofEntries]

/-- A number is put under its name. -/
theorem outcome_set (key : String) (value : Int) :
    ((store id server.client batch).answer (.set key value)).outcome content
      = (.ok (), content.set key value) := rfl

/-- A sum is replied and held, a sum of zero too. -/
theorem outcome_increment (key : String) (delta : Int) :
    ((store id server.client batch).answer (.increment key delta)).outcome content
      = (.ok ((content.get? key).getD 0 + delta),
        content.set key ((content.get? key).getD 0 + delta)) := rfl

end SteadyServer

end Moderation.Redis
