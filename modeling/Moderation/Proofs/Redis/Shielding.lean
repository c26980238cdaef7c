import Moderation.Proofs.Bayes.Options
import Moderation.Proofs.Store.Custody
import Moderation.Proofs.Store.Meddling

/-!
# `Moderation.Proofs.Redis.Shielding`: what a store makes of the outages of its server

Every answer of a client may be an outage: the reply to a command, and each name that a scan looks
for. A store on the client says that it is unavailable, whichever it was. It reads what is replied, and
where that cannot be read, the error is another one.

So two kinds of errors are followed through the sessions of a store, by one rule for each way to make
a session (`Client.Ends`) and one condition on the client (`Client.Confines`):

* `confines_shielded`: whatever the client replies, a request does not fail with an outage as it was;
* `confines_isOutage`: if the replies are what a server replies, a request fails in no other way than
  that the store is unavailable.

A connection is ended without an error (`outcome_closeStore`). Its beginning is another matter
(`openRedis_cases`): if the server does not answer, the client is disconnected first, and an outage of
the disconnection is passed on as it is.

The main statement is `outages_shielded`.
-/

set_option autoImplicit false

namespace Moderation.Redis

open Store Session
open Store.Program (Good good_ok)

variable {σ β γ : Type} {kind : Error → Prop} {count : Number → Prop}

/-! ### What a client answers -/

namespace Client

/-- Some state of the client has the answer to the question. -/
def Answers (client : Client σ) (question : Question) (answer : question.Answer) : Prop :=
  ∃ state, ((client.answer question).run state).1 = answer

/-- What fails is an outage. -/
structure FailsByOutage (client : Client σ) : Prop where
  command : ∀ command failure, client.Answers (.command command) (.error failure) →
    failure.kind.isOutage = true
  scan : ∀ pattern batch names failure, client.Answers (.scan pattern batch) (some names) →
    .error failure ∈ names → failure.kind.isOutage = true

/-- A reply says that there is no number, or is read as a whole number. -/
def IsCount (reply : Value) : Prop := reply = .null ∨ ∃ n, reply.toWhole = .ok n

/-- The replies are what a server that holds whole numbers replies. -/
structure Legible (client : Client σ) : Prop where
  get : ∀ key reply, client.Answers (.command (.get key)) (.ok reply) → IsCount reply
  getMany : ∀ keys reply, client.Answers (.command (.getMany keys)) (.ok reply) →
    ∃ replies, reply = .list replies ∧ ∀ reply ∈ replies, IsCount reply
  add : ∀ key delta reply, client.Answers (.command (.add key delta)) (.ok reply) →
    ∃ n, reply.toWhole = .ok n
  delete : ∀ keys reply, client.Answers (.command (.delete keys)) (.ok reply) →
    ∃ n : Int, reply = .int n
  scan : ∀ pattern batch, ¬ client.Answers (.scan pattern batch) none

/-! ### Sessions -/

/-- In any state of the client, a session has a good result or fails with an error of the kind. -/
def Ends (client : Client σ) (kind : Error → Prop) (good : β → Prop) (session : Session β) : Prop :=
  ∀ state, Good kind good ((client.run session).outcome state).1

variable {client : Client σ} {good : β → Prop}

/-- A value that is given at once has to be good. -/
theorem ends_pure {x : β} (h : good x) : client.Ends kind good (pure x) := fun _ => good_ok h

/-- A result that is known ends as it is. -/
theorem ends_ofExcept {result : Except Error β} (h : Good kind good result) :
    client.Ends kind good (Session.ofExcept result) := fun _ => h

/-- Two results that are known are one. -/
theorem ofExcept_bind (result : Except Error β) (f : β → Except Error γ) :
    (Session.ofExcept result >>= fun x => Session.ofExcept (f x)) = Session.ofExcept (result >>= f) := by
  cases result <;> rfl

/-- A client that answers a session answers its two parts. -/
theorem run_bind (client : Client σ) (session : Session β) (f : β → Session γ) :
    client.run (session >>= f) = client.run session >>= fun x => client.run (f x) :=
  Dialogue.run_except_bind client.answer session f

/-- What comes next only has to end well for good results of the session before it. -/
theorem Ends.bind {good' : γ → Prop} {session : Session β} {f : β → Session γ}
    (h : client.Ends kind good session) (hf : ∀ x, good x → client.Ends kind good' (f x)) :
    client.Ends kind good' (session >>= f) := by
  intro state
  rw [run_bind, Act.outcome_bind]
  have first := h state
  rcases outcome : (client.run session).outcome state with ⟨e | x, after⟩ <;> rw [outcome] at first
  · exact ⟨(failsAs_error_iff e).mpr (first.1 e rfl), nofun⟩
  · exact hf x (first.2 x rfl) after

/-- An error that is raised has to be of the kind. -/
theorem ends_throw {e : Error} (h : kind e) : client.Ends kind good (throw e) :=
  fun _ => ⟨(failsAs_error_iff e).mpr h, nofun⟩

/-- A question has an answer of the client. -/
theorem ends_question (question : Question) :
    client.Ends kind (client.Answers question) (ExceptT.lift (Dialogue.question question)) :=
  fun state => good_ok ⟨state, rfl⟩

/-! ### Requests -/

/-- What a store meets in the answers of a client makes it fail with errors of a kind only: failed
commands and scans, and replies that are not read. `count` holds of the counts of removed names. -/
structure Confines (client : Client σ) (kind : Error → Prop) (count : Number → Prop) : Prop where
  failed : ∀ operation command failure, client.Answers (.command command) (.error failure) →
    kind (errorOf operation failure)
  missed : ∀ pattern batch names failure, client.Answers (.scan pattern batch) (some names) →
    .error failure ∈ names → kind (errorOf "DEL" failure)
  nameless : ∀ pattern batch, client.Answers (.scan pattern batch) none → kind .wrongKind
  get : ∀ key reply, client.Answers (.command (.get key)) (.ok reply) →
    FailsAs kind (numberIn reply)
  getMany : ∀ (keys : List String) reply,
    client.Answers (.command (.getMany (keys.map .text))) (.ok reply) →
    FailsAs kind (reply.elements >>= numbersIn (keys.map .text))
  add : ∀ key delta reply, client.Answers (.command (.add key delta)) (.ok reply) →
    FailsAs kind reply.toWhole
  zero : count (.whole 0)
  delete : ∀ keys reply removed, client.Answers (.command (.delete keys)) (.ok reply) →
    count removed → Good kind count
      (reply.toNumber >>= fun n => (Arithmetic.add removed n).mapError Error.ofArithmetic)

namespace Confines

variable (h : client.Confines kind count)
include h

/-- A command is answered with a reply of the client, or an error says how it failed. -/
theorem ends_send (operation : String) (command : Command) :
    client.Ends kind (fun reply => client.Answers (.command command) (.ok reply))
      (send operation command) := by
  refine (ends_question (.command command)).bind fun answer given => ?_
  cases answer with
  | ok reply => exact ends_pure given
  | error failure => exact ends_throw (h.failed operation command failure given)

/-- A deletion fails with an error of the kind, or adds to the count of removed names. -/
theorem ends_deleteBatch {removed : Number} (hremoved : count removed) (batch : List Value) :
    client.Ends kind count (deleteBatch removed batch) := by
  refine (h.ends_send "DEL" (.delete batch)).bind fun reply given => ?_
  rw [ofExcept_bind]
  exact ends_ofExcept (h.delete batch reply removed given hremoved)

/-- Names are deleted up to the first that is not found. -/
theorem ends_sweep (size : Int) {names : List (Except Failure Value)}
    (missed : ∀ failure, .error failure ∈ names → kind (errorOf "DEL" failure))
    (batch : List Value) {removed : Number} (hremoved : count removed) :
    client.Ends kind count (sweep (.int size) batch removed names) := by
  -- The names of the batch and the count change from one name to the next.
  induction names generalizing batch removed with
  | nil =>
    rw [sweep]
    split
    · exact ends_pure hremoved
    · exact h.ends_deleteBatch hremoved batch
  | cons name names ih =>
    have later := ih fun failure hfailure => missed failure (List.mem_cons_of_mem _ hfailure)
    cases name with
    | error failure => exact ends_throw (missed failure List.mem_cons_self)
    | ok key =>
      rw [sweep]
      have known : client.Ends kind (fun _ => True)
          (Session.ofExcept (isComplete (.int size) (batch ++ [key]).length)) :=
        ends_ofExcept (good_ok trivial)
      refine known.bind fun complete _ => ?_
      cases complete with
      | true => exact (h.ends_deleteBatch hremoved _).bind fun _ counted => later [] counted
      | false => exact later _ hremoved

/-- A scan finds names that are missed with errors of the kind at most. A client that finds nothing
at all to go through fails at once. -/
theorem ends_scan (pattern : String) (batch : Value) :
    client.Ends kind
      (fun names => ∀ failure, Except.error failure ∈ names → kind (errorOf "DEL" failure))
      (Session.scan pattern batch) := by
  refine (ends_question (.scan pattern batch)).bind fun found given => ?_
  cases found with
  | some names => exact ends_pure fun failure => h.missed pattern batch names failure given
  | none => exact ends_throw (h.nameless pattern batch given)

/-- A look-up of many names fails with an error of the kind. -/
theorem ends_findMany (keys : List String) :
    client.Ends kind (fun _ => True) (findMany (.list (keys.map .text))) := by
  cases keys with
  | nil => exact ends_pure trivial -- The client is not asked.
  | cons key keys =>
    refine (h.ends_send "MGET" (.getMany ((key :: keys).map .text))).bind fun reply given => ?_
    show client.Ends kind _ (Session.ofExcept reply.elements >>= fun replies =>
      Session.ofExcept (numbersIn _ replies))
    rw [ofExcept_bind]
    exact ends_ofExcept ⟨h.getMany (key :: keys) reply given, fun _ _ => trivial⟩

/-- A request has a reply, or fails with an error of the kind. -/
theorem ends_serve (size : Int) (request : Request) :
    client.Ends kind (fun _ => True) (serve (.int size) request) := by
  -- Each request sends one command and reads the reply, but for removing names, which is a scan and
  -- deletions.
  cases request with
  | get key =>
    refine (h.ends_send "GET" (.get (.text key))).bind fun reply given => ?_
    exact ends_ofExcept ⟨h.get _ reply given, fun _ _ => trivial⟩
  | getMany keys => exact (h.ends_findMany keys).bind fun _ _ => ends_pure trivial
  | set key value =>
    exact (h.ends_send "SET" (.set (.text key) value)).bind fun _ _ => ends_pure trivial
  | increment key delta =>
    refine (h.ends_send "INCRBY" (.add (.text key) (.int delta))).bind fun reply given => ?_
    exact ends_ofExcept ⟨h.add _ _ reply given, fun _ _ => trivial⟩
  | clear scope =>
    refine (h.ends_scan (scope ++ "*") (.int size)).bind fun names missed state => ?_
    exact ⟨(h.ends_sweep size missed [] h.zero state).1, fun _ _ => trivial⟩

end Confines

end Client

/-! ### What is read in a reply -/

/-- No number is read in a null, and everything else is read as a whole number. -/
theorem failsAs_numberIn {reply : Value} (h : reply = .null ∨ FailsAs kind reply.toWhole) :
    FailsAs kind (numberIn reply) := by
  rcases h with rfl | h
  · exact failsAs_ok none
  · cases reply with
    | null => exact failsAs_ok none
    | _ => exact (failsAs_map_iff some).mpr h

/-- The numbers in a list of replies are read one after the other, under names that can be read
always. -/
theorem failsAs_numbersIn (keys : List String) {replies : List Value}
    (h : ∀ reply ∈ replies, FailsAs kind (numberIn reply)) :
    FailsAs kind (numbersIn (keys.map .text) replies) := by
  refine failsAs_bind_iff.mpr ⟨failsAs_mapM_iff.mpr fun before entry after parts _ => ?_,
    fun _ _ => failsAs_ok _⟩
  have member : entry ∈ (keys.map Value.text).zip replies := by simp [parts]
  obtain ⟨hkey, hreply⟩ := List.of_mem_zip member
  obtain ⟨key, -, named⟩ := List.mem_map.mp hkey
  refine failsAs_bind_iff.mpr ⟨h entry.2 hreply, fun n _ => ?_⟩
  rw [← named]
  cases n <;> exact failsAs_ok _

/-! ### Outages that are passed on as they are -/

/-- The error is no outage of a server that is passed on as it is. -/
def Shielded (e : Error) : Prop :=
  ∀ failure, e = .client failure → failure.kind.isOutage = false

/-- An outage is turned where a command fails, and only other failures are passed on. -/
theorem shielded_errorOf (operation : String) (failure : Failure) :
    Shielded (errorOf operation failure) := by
  rw [errorOf]
  split
  · nofun
  · next available =>
    rintro _ ⟨⟩
    simpa using available

/-- What cannot be read is no outage. -/
theorem shielded_of_isIllegible {e : Error} (h : e.IsIllegible) : Shielded e := by
  rintro failure rfl
  rcases h with h | h <;> cases h

/-- Neither is a fault of arithmetic. -/
theorem shielded_ofArithmetic (fault : ArithmeticFault) : Shielded (Error.ofArithmetic fault) := by
  cases fault <;> nofun

/-- So reading a whole number passes no outage on. -/
theorem failsAs_shielded_toWhole (reply : Value) : FailsAs Shielded reply.toWhole :=
  fun e failed => shielded_of_isIllegible (Value.failsAs_illegible_toWhole reply e failed)

/-- Whatever a client replies, its outages are not passed on. -/
theorem confines_shielded (client : Client σ) : client.Confines Shielded fun _ => True where
  failed operation _ failure _ := shielded_errorOf operation failure
  missed _ _ _ failure _ _ := shielded_errorOf "DEL" failure
  nameless _ _ _ := nofun
  get _ reply _ := failsAs_numberIn (Or.inr (failsAs_shielded_toWhole reply))
  getMany keys reply _ := failsAs_bind_iff.mpr
    ⟨fun e failed => shielded_of_isIllegible (Value.failsAs_illegible_elements reply e failed),
      fun _ _ => failsAs_numbersIn keys fun reply _ =>
        failsAs_numberIn (Or.inr (failsAs_shielded_toWhole reply))⟩
  add _ _ reply _ := failsAs_shielded_toWhole reply
  zero := trivial
  delete _ reply removed _ _ := by
    refine ⟨failsAs_bind_iff.mpr ⟨?_, fun n _ => ?_⟩, fun _ _ => trivial⟩
    · -- What is replied to a deletion is a number, or cannot be read.
      cases reply with
      | number n => exact failsAs_ok n
      | _ => exact (failsAs_error_iff _).mpr nofun
    · cases Arithmetic.add removed n with
      | ok sum => exact failsAs_ok sum
      | error fault => exact (failsAs_error_iff _).mpr (shielded_ofArithmetic fault)

/-! ### Nothing but outages of the store -/

/-- A number of which it is known that it can be read is read. -/
theorem failsAs_numberIn_of_isCount {reply : Value} (h : Client.IsCount reply) :
    FailsAs kind (numberIn reply) := by
  refine failsAs_numberIn (h.imp_right ?_)
  rintro ⟨n, read⟩
  exact read ▸ failsAs_ok n

/-- If nothing fails but by an outage, and what is replied can be read, a store on the client is
unavailable or replies. -/
theorem confines_isOutage {client : Client σ} (outages : client.FailsByOutage)
    (legible : client.Legible) :
    client.Confines Error.IsOutage fun count => ∃ n : Int, count = .whole n where
  failed operation command failure given :=
    ⟨_, if_pos (outages.command command failure given)⟩
  missed pattern batch names failure given member :=
    ⟨_, if_pos (outages.scan pattern batch names failure given member)⟩
  nameless pattern batch given := absurd given (legible.scan pattern batch)
  get key reply given := failsAs_numberIn_of_isCount (legible.get key reply given)
  getMany keys reply given := by
    obtain ⟨replies, rfl, counts⟩ := legible.getMany _ reply given
    exact failsAs_numbersIn keys fun reply hreply => failsAs_numberIn_of_isCount (counts reply hreply)
  add key delta reply given := by
    obtain ⟨n, read⟩ := legible.add key delta reply given
    exact read ▸ failsAs_ok n
  zero := ⟨0, rfl⟩
  -- Only integers are counted, and their sum is one.
  delete keys reply removed given counted := by
    obtain ⟨n, rfl⟩ := legible.delete keys reply given
    obtain ⟨m, rfl⟩ := counted
    exact good_ok ⟨m + n, rfl⟩

/-! ### The beginning and the end of a connection -/

section

variable (client : Client σ) (state : σ)

/-- The client's answer to a command. -/
def Client.told (command : Command) : Except Failure Value :=
  ((client.answer (.command command)).run state).1

/-- The state of the client after a command. -/
def Client.after (command : Command) : σ := ((client.answer (.command command)).run state).2

/-- The client is disconnected, or the server is gone already. -/
theorem closeStore_ends (outages : client.FailsByOutage) :
    client.Ends (fun _ => False) (fun _ => True) closeStore := by
  refine (Client.ends_question (.command .disconnect)).bind fun answer given => ?_
  cases answer with
  | ok reply => exact Client.ends_pure trivial
  | error failure =>
    dsimp only
    rw [if_pos (outages.command .disconnect failure given)]
    exact Client.ends_pure trivial

/-- A connection is ended without an error, since all that can fail is an outage. -/
theorem outcome_closeStore (outages : client.FailsByOutage) :
    ((client.run closeStore).outcome state).1 = .ok () := by
  have ended := (closeStore_ends client outages state).1
  cases result : ((client.run closeStore).outcome state).1 with
  | ok => rfl
  | error e => exact (ended e result).elim

/-- After a command, a session goes on with the client's answer. -/
theorem Client.outcome_attempt_bind (command : Command) (f : Except Failure Value → Session β) :
    (client.run (attempt command >>= f)).outcome state
      = (client.run (f (client.told state command))).outcome (client.after state command) := by
  rw [run_bind]
  rfl

/-- Only a store whose server answers is opened. If the server is gone, and so is the connection to
it, the second outage is passed on as it is. -/
theorem outcome_openStore : ((client.run openStore).outcome state).1 =
    match client.told state .ping with
    | .ok _ => .ok ()
    | .error failure =>
      if failure.kind.isOutage then
        match client.told (client.after state .ping) .disconnect with
        | .ok _ => .error (.storeUnavailable (.unreachable failure))
        | .error second => .error (.client second)
      else .error (.client failure) := by
  rw [openStore, Client.outcome_attempt_bind]
  -- The server answers, it is gone, or it answers with an error that is no outage.
  cases client.told state .ping with
  | ok reply => rfl
  | error failure =>
    by_cases outage : failure.kind.isOutage = true
    · simp only [outage, if_true]
      rw [Client.outcome_attempt_bind]
      cases client.told (client.after state .ping) .disconnect <;> rfl
    · simp only [outage]
      rfl

end

/-- A store on a server is opened if the connection is. -/
theorem outcome_openRedis [HasShelf σ] (dial : Registry.Dial σ) {params : Value.Map Value}
    {options : Options} (read : Options.ofParams? params.named = .ok options) (state : σ) :
    ∃ id, ((Registry.openRedis dial params).outcome state).1
      = (((dial options).run openStore).outcome state).1.map
          fun _ => store id (dial options) defaultBatch := by
  have known : Registry.openRedis dial params
      = (dial options).run openStore >>= fun _ =>
          (store · (dial options) defaultBatch) <$> Memory.takeNumber := by
    rw [Registry.openRedis, read]
    rfl
  rw [known, Act.outcome_bind]
  -- A number is taken once the connection is open.
  rcases ((dial options).run openStore).outcome state with ⟨e | ⟨⟩, after⟩
  · exact ⟨0, rfl⟩
  · exact ⟨(HasShelf.shelf after).length, rfl⟩

/-- If all that fails is an outage, a store is opened after a ping that is answered, and is
unavailable after a disconnection. If both fail, the second outage is the error. -/
theorem openRedis_cases [HasShelf σ] (dial : Registry.Dial σ) {params : Value.Map Value}
    {options : Options} (read : Options.ofParams? params.named = .ok options)
    (outages : (dial options).FailsByOutage) (state : σ) :
    (∃ reply opened, (dial options).told state .ping = .ok reply
        ∧ ((Registry.openRedis dial params).outcome state).1 = .ok opened)
    ∨ ∃ failure, (dial options).told state .ping = .error failure
      ∧ ((∃ reply, (dial options).told ((dial options).after state .ping) .disconnect = .ok reply
          ∧ ((Registry.openRedis dial params).outcome state).1
              = .error (.storeUnavailable (.unreachable failure)))
        ∨ ∃ second, (dial options).told ((dial options).after state .ping) .disconnect = .error second
          ∧ ((Registry.openRedis dial params).outcome state).1 = .error (.client second)) := by
  obtain ⟨id, opened⟩ := outcome_openRedis dial read state
  rw [opened, outcome_openStore]
  cases pinged : (dial options).told state .ping with
  | ok reply => exact Or.inl ⟨reply, _, rfl, rfl⟩
  | error failure =>
    -- The client is disconnected in the state that the failed ping has left.
    refine Or.inr ⟨failure, rfl, ?_⟩
    have outage := outages.command .ping failure ⟨state, pinged⟩
    simp only [outage, if_true]
    cases (dial options).told ((dial options).after state .ping) .disconnect with
    | ok reply => exact Or.inl ⟨reply, rfl, rfl⟩
    | error second => exact Or.inr ⟨second, rfl, rfl⟩

/-! ### Clients without a state -/

/-- A client that answers each command in the same way at all times, and finds `found` in every
scan. -/
def Client.steady (told : Command → Except Failure Value) (found : List (Except Failure Value)) :
    Client Shelf where
  answer
    | .command c => pure (told c)
    | .scan .. => pure (some found)
  content _ := []

/-- Such a client fails by an outage if its answers do. -/
theorem failsByOutage_steady {told : Command → Except Failure Value}
    {found : List (Except Failure Value)}
    (command : ∀ command failure, told command = .error failure → failure.kind.isOutage = true)
    (scan : ∀ failure, .error failure ∈ found → failure.kind.isOutage = true) :
    (Client.steady told found).FailsByOutage where
  command c failure given := by
    obtain ⟨state, answered⟩ := given
    exact command c failure answered
  scan pattern batch names failure given member := by
    obtain ⟨state, answered⟩ := given
    obtain rfl : found = names := Option.some.inj answered
    exact scan failure member

/-- The server answers a ping and a look-up. Everything else takes too long, also the second name
that a scan looks for. -/
def slow : Client Shelf :=
  .steady (fun
    | .ping => .ok (.text "PONG")
    | .get _ => .ok (.text "7")
    | _ => .error ⟨.timeout, "Timeout reading from socket"⟩)
    [.ok (.text "decidim_ai:bayes:vocsize"), .error ⟨.timeout, "Timeout reading from socket"⟩]

/-- The server is gone, and the connection to it breaks while it is closed. -/
def gone : Client Shelf :=
  .steady (fun
    | .disconnect => .error ⟨.system, "Broken pipe"⟩
    | _ => .error ⟨.connection, "Connection refused"⟩)
    [.error ⟨.connection, "Connection refused"⟩]

/-- What takes too long is an outage. -/
theorem failsByOutage_slow : slow.FailsByOutage := by
  refine failsByOutage_steady (fun command failure failed => ?_) fun failure member => ?_
  · cases command <;> cases failed <;> rfl
  · simp only [List.mem_cons, reduceCtorEq, false_or, List.not_mem_nil, or_false] at member
    cases member
    rfl

/-- A server that is gone is an outage, too. -/
theorem failsByOutage_gone : gone.FailsByOutage := by
  refine failsByOutage_steady (fun command failure failed => ?_) fun failure member => ?_
  · cases command <;> cases failed <;> rfl
  · cases List.mem_singleton.mp member
    rfl

/-- Where nothing is replied, there is nothing to be read. -/
theorem legible_gone : gone.Legible where
  get _ _ := by rintro ⟨_, ⟨⟩⟩
  getMany _ _ := by rintro ⟨_, ⟨⟩⟩
  add _ _ _ := by rintro ⟨_, ⟨⟩⟩
  delete _ _ := by rintro ⟨_, ⟨⟩⟩
  scan _ _ := by rintro ⟨_, ⟨⟩⟩

/-- The one number that is replied can be read. -/
theorem legible_slow : slow.Legible where
  get key reply := by
    rintro ⟨_, ⟨⟩⟩
    exact Or.inr ⟨7, rfl⟩
  getMany _ _ := by rintro ⟨_, ⟨⟩⟩
  add _ _ _ := by rintro ⟨_, ⟨⟩⟩
  delete _ _ := by rintro ⟨_, ⟨⟩⟩
  scan _ _ := by rintro ⟨_, ⟨⟩⟩

/-! ### What a store makes of outages -/

/-- A request of a store on a client never fails with an outage as it was, whatever the client
replies. If all that fails is an outage, a request whose replies can be read has its reply, or the
store is unavailable; a store is closed, and it is opened exactly if the ping is answered. That it is
not opened is an unavailable store, but for one case: the ping has failed, and so has the
disconnection after it. -/
theorem outages_shielded [HasShelf σ] (dial : Registry.Dial σ) {params : Value.Map Value}
    {options : Options} (read : Options.ofParams? params.named = .ok options) (id : Nat) (size : Int)
    (state : σ) :
    (∀ request, FailsAs Shielded
      (((store id (dial options) (.int size)).answer request).outcome state).1)
    ∧ ((dial options).FailsByOutage →
      ((dial options).Legible → ∀ request, FailsAs Error.IsOutage
        (((store id (dial options) (.int size)).answer request).outcome state).1)
      ∧ ((store id (dial options) (.int size)).close.outcome state).1 = .ok ()
      ∧ ((∃ opened, ((Registry.openRedis dial params).outcome state).1 = .ok opened)
        ↔ ∃ reply, (dial options).told state .ping = .ok reply)
      ∧ (FailsAs Error.IsOutage ((Registry.openRedis dial params).outcome state).1
        ↔ (∃ reply, (dial options).told state .ping = .ok reply)
          ∨ ∃ reply, (dial options).told ((dial options).after state .ping) .disconnect
              = .ok reply)) := by
  refine ⟨fun request => ((confines_shielded _).ends_serve size request state).1,
    fun outages => ⟨fun legible request =>
      ((confines_isOutage outages legible).ends_serve size request state).1,
      outcome_closeStore _ state outages, ?_⟩⟩
  -- Three ways to open a store: the ping is answered, the disconnection after it is, or neither is.
  obtain ⟨reply, opened, pinged, done⟩ | ⟨failure, pinged, ⟨reply, left, failed⟩ | ⟨second, left, failed⟩⟩ :=
    openRedis_cases dial read outages state
  · rw [done, pinged]
    exact ⟨iff_of_true ⟨opened, rfl⟩ ⟨reply, rfl⟩, iff_of_true (failsAs_ok opened) (Or.inl ⟨reply, rfl⟩)⟩
  · rw [failed, pinged, left]
    exact ⟨iff_of_false nofun nofun,
      iff_of_true ((failsAs_error_iff _).mpr ⟨_, rfl⟩) (Or.inr ⟨reply, rfl⟩)⟩
  · rw [failed, pinged, left]
    exact ⟨iff_of_false nofun nofun, iff_of_false (fun h => nomatch (failsAs_error_iff _).mp h) nofun⟩

/-- A store on the slow server is opened, cannot remove a scope, and is closed. -/
theorem outages_shielded_slow :
    (∃ opened, ((Registry.openRedis (fun _ => slow) []).outcome []).1 = .ok opened)
    ∧ FailsAs Error.IsOutage
      (((store 0 slow (.int 500)).answer (.clear "decidim_ai:bayes:")).outcome []).1
    ∧ ((store 0 slow (.int 500)).close.outcome []).1 = .ok () := by
  obtain ⟨-, shielded⟩ := outages_shielded (fun _ => slow)
    (rfl : Options.ofParams? (Value.Map.named []) = .ok _) 0 500 ([] : Shelf)
  obtain ⟨requests, closed, opened, -⟩ := shielded failsByOutage_slow
  exact ⟨opened.mpr ⟨_, rfl⟩, requests legible_slow (.clear "decidim_ai:bayes:"), closed⟩

/-- On the server that is gone, opening a store fails with the second outage as it was. -/
theorem not_shielded_gone :
    ¬ ∀ client : Client Shelf, client.FailsByOutage → client.Legible → ∀ state,
      FailsAs Error.IsOutage ((Registry.openRedis (fun _ => client) []).outcome state).1 := by
  intro shielded
  have failed : ((Registry.openRedis (fun _ => gone) []).outcome ([] : Shelf)).1
      = .error (.client ⟨.system, "Broken pipe"⟩) := rfl
  have outage := shielded gone failsByOutage_gone legible_gone []
  rw [failed, failsAs_error_iff] at outage
  obtain ⟨_, same⟩ := outage
  cases same

end Moderation.Redis
