import Durak.Proofs.Linearizable
import Durak.Proofs.Restored
import Durak.Proofs.Spelled

/-!
# Commands reach the game they name

A command is read twice: first for the id of its game alone, which decides where it goes, and then
as a whole by the game that it has come to.  The second reading never finds another id than the
first, so what is left to see is that the game has the id that the command was routed to.

A game is saved under its own id, and whatever its text is read as has that id
(`Game.id_of_stored`), also when the turn timeout does not read back.  So in a store that starts
empty every game has the id it is stored under (`Store.Filed`).  Saving keeps that, and hence so do
requests (`Service.filed_after`) and commands in flight under any schedule (`Traffic.filed_run`).
No command is answered then that it was meant for another game (`Service.code_of_handle`).

`Service.Handling` lists once what can become of a command.
-/

set_option autoImplicit false

namespace Durak

/-! ## Stores -/

/-- Whatever the text of a stored game is read as has the id of that game. -/
theorem Game.id_of_stored {game read : Game} {text : String}
    (isText : game.storedText? = some text) (isRead : ofStoredText text = .ok read) :
    read.id = game.id := by
  obtain ⟨json, written, rfl⟩ := Option.map_eq_some_iff.mp isText
  have decoded := isRead
  rw [ofStoredText, Document.decodeText_text, Document.decodeWith] at decoded
  split at decoded
  · rename_i reads
    obtain ⟨other, restored⟩ := exists_restored?_of_decoded written reads
    have whole := ofStoredText_of_storedText? isText (readsAs_of_restored? restored)
    cases isRead.symm.trans whole
    rfl
  · cases decoded

namespace Store

/-- A store in which every game that can be loaded has the id it is stored under. -/
def Filed (store : Store) : Prop := ∀ id game, store.load id = .ok game → game.id = id

variable {store saved : Store} {id : String} {game : Game}

theorem load_eq_ok_iff :
    store.load id = .ok game ↔
      ∃ text, store.texts.lookup id = some text ∧ Game.ofStoredText text = .ok game := by
  rw [load, load?]
  cases store.texts.lookup id with
  | none => simp
  | some text =>
    cases isRead : Game.ofStoredText text with
    | ok read => simp [isRead]
    | error fault => simp [isRead]

theorem load_of_load? (found : store.load? id = .ok (some game)) : store.load id = .ok game := by
  rw [load, found]

theorem filed_empty : empty.Filed := by
  intro id game loaded
  obtain ⟨text, isText, -⟩ := load_eq_ok_iff.mp loaded
  cases isText

/-- A game is saved under its own id, so every game stays where it belongs. -/
theorem Filed.save (filed : store.Filed) (isSaved : store.save game = .ok saved) :
    saved.Filed := by
  rw [Store.save] at isSaved
  split at isSaved
  · rename_i text isText
    cases isSaved
    intro id loaded isLoaded
    obtain ⟨found, isFound, isRead⟩ := load_eq_ok_iff.mp isLoaded
    by_cases same : id = game.id
    · subst same
      rw [lookup_insertKeyed_self] at isFound
      cases isFound
      exact Game.id_of_stored isText isRead
    · rw [lookup_insertKeyed_of_ne same] at isFound
      exact filed id loaded (load_eq_ok_iff.mpr ⟨found, isFound, isRead⟩)
  · cases isSaved

/-- A game that cannot be loaded is unknown, or its text is corrupt. -/
theorem code_of_load {failure : Failure} (failed : store.load id = .error failure) :
    failure.code = .gameNotFound ∨ failure.code = .dataCorruption := by
  rw [load, load?] at failed
  cases isText : store.texts.lookup id with
  | none =>
    rw [isText] at failed
    cases failed
    exact .inl rfl
  | some text =>
    rw [isText] at failed
    cases isRead : Game.ofStoredText text with
    | ok read => simp [isRead] at failed
    | error fault =>
      simp only [isRead] at failed
      cases failed
      exact .inr rfl

end Store

/-! ## Requests -/

namespace Service

/-- What can become of a command: the service after it, and its answer. -/
inductive Handling (service : Service) (bytes : List UInt8) (now : Instant) :
    Service → Except Failure Packs → Prop
  | unreadable {fault : CommandFault} (unread : Command.gameIdOf bytes = .error fault) :
      Handling service bytes now service (.error fault.toFailure)
  | unloaded {gameId : String} {failure : Failure}
      (isRouted : Command.gameIdOf bytes = .ok gameId)
      (failed : service.store.load gameId = .error failure) :
      Handling service bytes now service (.error failure)
  | refused {gameId : String} {game : Game} {failure : Failure}
      (isRouted : Command.gameIdOf bytes = .ok gameId)
      (loaded : service.store.load gameId = .ok game)
      (failed : (game.handle bytes now).answer = .error failure) :
      Handling service bytes now service (.error failure)
  | finished {gameId : String} {game : Game} {packs : Packs}
      (isRouted : Command.gameIdOf bytes = .ok gameId)
      (loaded : service.store.load gameId = .ok game)
      (answered : (game.handle bytes now).answer = .ok packs) :
      Handling service bytes now
        (service.finish gameId (game.handle bytes now).game packs).service
        (service.finish gameId (game.handle bytes now).game packs).answer

variable {service : Service} {gameId : String} {bytes : List UInt8} {now : Instant}

/-- Every command comes out in one of these ways. -/
theorem handling (service : Service) (bytes : List UInt8) (now : Instant) :
    service.Handling bytes now (service.handle bytes now).service
      (service.handle bytes now).answer := by
  cases isRouted : Command.gameIdOf bytes with
  | error fault =>
    rw [handle_of_unreadable isRouted]
    exact .unreadable isRouted
  | ok gameId =>
    cases loaded : service.store.load gameId with
    | error failure =>
      rw [(handle_of_unloaded isRouted loaded).1, (handle_of_unloaded isRouted loaded).2]
      exact .unloaded isRouted loaded
    | ok game =>
      cases answered : (game.handle bytes now).answer with
      | error failure =>
        obtain ⟨kept, isAnswer⟩ := handle_of_failed isRouted loaded answered
        rw [kept, isAnswer]
        exact .refused isRouted loaded answered
      | ok packs =>
        obtain ⟨saved, isAnswer⟩ := handle_of_answered isRouted loaded answered
        rw [saved, isAnswer]
        exact .finished isRouted loaded answered

theorem filed_finish (filed : service.store.Filed) (gameId : String) (game : Game)
    (packs : Packs) : (service.finish gameId game packs).service.store.Filed := by
  rw [finish]
  split
  · rename_i saved isSaved
    exact filed.save isSaved
  · exact filed

theorem filed_handle (filed : service.store.Filed) (bytes : List UInt8) (now : Instant) :
    (service.handle bytes now).service.store.Filed := by
  have handled := service.handling bytes now
  generalize (service.handle bytes now).service = later, (service.handle bytes now).answer = answer
    at handled
  cases handled with
  | unreadable | unloaded | refused => exact filed
  | finished => exact filed_finish filed _ _ _

theorem filed_serve (filed : service.store.Filed) (request : Request) :
    (service.serve request).1.store.Filed := by
  cases request with
  | create id seed entrants =>
    rw [serve]
    cases isCreated : service.create id seed entrants with
    | error failure => exact filed
    | ok result =>
      obtain ⟨created, game, log⟩ := result
      exact filed.save (save_of_create isCreated).2
  | command bytes now => exact filed_handle filed bytes now

/-- Whatever is asked, every game keeps the id it is stored under. -/
theorem filed_after (filed : service.store.Filed) (requests : List Request) :
    (service.after requests).store.Filed := by
  induction requests generalizing service with
  | nil => exact filed
  | cons request requests hypothesis => exact hypothesis (filed_serve filed request)

/-- Finishing a command fails only if the game cannot be stored. -/
theorem code_of_finish {game : Game} {packs : Packs} {failure : Failure}
    (failed : (service.finish gameId game packs).answer = .error failure) :
    failure.code = .storeError := by
  rw [finish, Store.save] at failed
  cases isText : game.storedText? with
  | some text => simp [isText] at failed
  | none =>
    simp only [isText] at failed
    cases failed
    rfl

/-- **A command is never answered that it was meant for another game.** -/
theorem code_of_handle (filed : service.store.Filed) {failure : Failure}
    (failed : (service.handle bytes now).answer = .error failure) :
    failure.code ≠ .invalidGameId := by
  have handled := service.handling bytes now
  generalize (service.handle bytes now).service = later, (service.handle bytes now).answer = answer
    at handled failed
  cases handled with
  | unreadable =>
    cases failed
    intro wrong
    cases wrong
  | unloaded isRouted unloaded =>
    cases failed
    rcases Store.code_of_load unloaded with code | code <;> simp [code]
  | @refused gameId game refusal isRouted loaded refused =>
    cases failed
    have ours : Command.gameIdOf bytes = .ok game.id := by rw [isRouted, filed gameId game loaded]
    rcases Game.code_of_handle ours refused with code | code | code <;> simp [code]
  | finished => simp [code_of_finish failed]

theorem code_of_answerTo (filed : service.store.Filed) {sent : Sent} {order : List Sent}
    {failure : Failure} (failed : answerTo sent service order = some (.error failure)) :
    failure.code ≠ .invalidGameId := by
  -- each command is answered by the service that those before it have left
  induction order generalizing service with
  | nil => cases failed
  | cons next order hypothesis =>
    rw [answerTo] at failed
    split at failed
    · exact code_of_handle filed (Option.some.inj failed)
    · exact hypothesis (filed_handle filed next.bytes next.now) failed

end Service

/-! ## Commands in flight -/

namespace Traffic

variable {traffic moved : Traffic} {sent : Sent} {old new stage : Stage} {service : Service}

/-- Only saving a game changes the store. -/
theorem Move.filed (move : traffic.Move sent old new moved)
    (filed : traffic.service.store.Filed) : moved.service.store.Filed := by
  cases move with
  | save => exact Service.filed_finish filed _ _ _
  | join => rwa [(join_keeps _ _).2]
  | unreadable | route | turnAway | find | wait | fail | prepare | leave => exact filed

/-- Whoever takes a step, every game keeps the id it is stored under. -/
theorem filed_step (filed : traffic.service.store.Filed) (number : Nat) :
    (traffic.step number).service.store.Filed := by
  rcases step_cases traffic number with same | ⟨sent, old, new, moved, rfl, stands, move, stepIs⟩
  · rwa [same]
  · rw [stepIs]
    exact move.filed filed

/-- Whatever the schedule, every game keeps the id it is stored under. -/
theorem filed_run (filed : traffic.service.store.Filed) (schedule : List Nat) :
    (traffic.run schedule).service.store.Filed := by
  induction schedule generalizing traffic with
  | nil => exact filed
  | cons number schedule hypothesis => exact hypothesis (filed_step filed number)

/-- What is about to be saved for a command comes from carrying it out on the stored game that it
names. -/
theorem Linear.exists_stored {turns : List Sent} (linear : traffic.Linear service turns)
    {gameId : String} {lane : Nat} {game : Game} {packs : Packs} {command : Command}
    (stands : traffic.At sent (.saving gameId lane game packs))
    (isCommand : Command.ofBytes sent.bytes = .ok command) :
    ∃ stored, traffic.service.store.load command.gameId = .ok stored ∧
      stored.id = command.gameId ∧ game.id = command.gameId ∧
      game = (stored.apply command.userId command.action sent.now).game.withoutEvents := by
  obtain ⟨stored, loaded, rfl, answered⟩ := linear.prepared stands
  obtain ⟨carriedOut, alsoCommand, ours, made⟩ := Game.exists_command_of_handle answered
  obtain rfl : carriedOut = command := Except.ok.inj (alsoCommand.symm.trans isCommand)
  have isRouted := linear.known stands rfl
  obtain rfl : gameId = carriedOut.gameId :=
    Except.ok.inj (isRouted.symm.trans (Command.gameIdOf_of_ofBytes isCommand))
  exact ⟨stored, loaded, ours.symm, (Game.id_of_handle answered).2.trans ours.symm, made⟩

/-- **Commands reach the game they name.**  Of any bytes that are read as a command, whatever else
is in them, the game's id that is read first is the one that the whole command names.

In a store that starts empty every game has the id it is stored under, and neither requests nor
commands in flight change that.  So take any commands that are sent to such a service together, and
any schedule.  Wherever a command stands that can be read, it is under way to the game that it
names: the lane that it waits for or has is the one of that game, what it loads there has that id,
and what it is about to save is that game with the command carried out.  And it is never answered
that it was meant for another game. -/
theorem commands_reach_the_game_they_name :
    (∀ bytes command, Command.ofBytes bytes = .ok command →
      Command.gameIdOf bytes = .ok command.gameId) ∧
    (∀ settings, (Service.ofSettings settings).store.Filed) ∧
    ∀ service : Service, service.store.Filed →
      (∀ requests, (service.after requests).store.Filed) ∧
      ∀ commands schedule,
        let traffic := (arriving service commands).run schedule
        traffic.service.store.Filed ∧
        ∀ sent stage command, traffic.At sent stage →
          Command.ofBytes sent.bytes = .ok command →
          (∀ gameId, stage.named? = some gameId → gameId = command.gameId) ∧
          (∀ gameId lane, stage.lane? = some (gameId, lane) →
            traffic.current.lookup command.gameId = some lane) ∧
          (∀ gameId lane game, stage = .working gameId lane →
            traffic.service.store.load gameId = .ok game → game.id = command.gameId) ∧
          (∀ gameId lane game packs, stage = .saving gameId lane game packs →
            ∃ stored, traffic.service.store.load command.gameId = .ok stored ∧
              stored.id = command.gameId ∧ game.id = command.gameId ∧
              game = (stored.apply command.userId command.action sent.now).game.withoutEvents) ∧
          (∀ failure, stage.outcome? = some (.error failure) →
            failure.code ≠ .invalidGameId) := by
  refine ⟨fun bytes command isCommand => Command.gameIdOf_of_ofBytes isCommand,
    fun settings => Store.filed_empty, fun service filed => ⟨Service.filed_after filed, ?_⟩⟩
  intro commands schedule traffic
  have stillFiled : traffic.service.store.Filed := filed_run filed schedule
  have orderly : traffic.Orderly := (orderly_arriving service commands).run schedule
  have linear := (linear_arriving service commands).run (orderly_arriving service commands) schedule
  refine ⟨stillFiled, fun sent stage command stands isCommand => ?_⟩
  have routed : ∀ gameId, stage.named? = some gameId → gameId = command.gameId := by
    intro gameId isNamed
    have isRouted := linear.known stands isNamed
    exact Except.ok.inj (isRouted.symm.trans (Command.gameIdOf_of_ofBytes isCommand))
  refine ⟨routed, ?_, ?_, ?_, ?_⟩
  · intro gameId lane inLane
    have isNamed := Stage.named?_of_admitted? (Stage.admitted?_of_lane? inLane)
    rw [← routed gameId isNamed]
    exact orderly.isCurrent stands inLane
  · rintro gameId lane game rfl loaded
    rw [stillFiled gameId game loaded]
    exact routed gameId rfl
  · rintro gameId lane game packs rfl
    exact linear.exists_stored stands isCommand
  · intro failure failed
    exact Service.code_of_answerTo filed (linear.answered stands failed)

/-- A lone command on a game that can be loaded is at work on it after three steps. -/
theorem at_working_of_loaded {bytes : List UInt8} {gameId : String} {game : Game}
    (isRouted : Command.gameIdOf bytes = .ok gameId)
    (loaded : service.store.load gameId = .ok game) (now : Instant) :
    let traffic := (arriving service [(bytes, now)]).run [0, 0, 0]
    traffic.At ⟨0, bytes, now⟩ (.working gameId 0) ∧ traffic.service = service := by
  have first : (arriving service [(bytes, now)]).step 0 =
      { arriving service [(bytes, now)] with flights := [⟨bytes, now, .routed gameId⟩] } := by
    simp [step, arriving, advance, isRouted, setStage]
  have second : { arriving service [(bytes, now)] with
      flights := [⟨bytes, now, .routed gameId⟩] }.step 0 =
      { arriving service [(bytes, now)] with flights := [⟨bytes, now, .found gameId⟩] } := by
    simp [step, arriving, advance, loaded, setStage]
  simp only [run, List.foldl_cons, List.foldl_nil, first, second]
  simp [step, arriving, advance, join, laneOf, enter, holders, changeHolders, setStage, At,
    updateFirst]

/-- A player of a dealt duel gets ready, in that duel. -/
theorem commands_reach_the_game_they_name_getting_ready :
    let command : Command := ⟨"g", "a", .ready⟩
    let service := (Service.ofSettings ⟨Double.ofInt 30⟩).after
      [.create "g" 7 [⟨"a", ""⟩, ⟨"b", ""⟩]]
    let traffic := (arriving service [(command.bytes, .ofUnixSeconds 0)]).run [0, 0, 0]
    Command.gameIdOf command.bytes = .ok "g" ∧
      traffic.At ⟨0, command.bytes, .ofUnixSeconds 0⟩ (.working "g" 0) ∧
      traffic.current.lookup "g" = some 0 ∧
      ∃ game, traffic.service.store.load "g" = .ok game ∧ game.id = "g" := by
  obtain ⟨routed, empty, each⟩ := commands_reach_the_game_they_name
  -- for any service, bytes and timeout first, so that nothing computes with the ones given
  have reaches : ∀ (service : Service) bytes command game, service.store.Filed →
      Command.ofBytes bytes = .ok command → service.store.load command.gameId = .ok game →
        let traffic := (arriving service [(bytes, .ofUnixSeconds 0)]).run [0, 0, 0]
        Command.gameIdOf bytes = .ok command.gameId ∧
          traffic.At ⟨0, bytes, .ofUnixSeconds 0⟩ (.working command.gameId 0) ∧
          traffic.current.lookup command.gameId = some 0 ∧
          ∃ game, traffic.service.store.load command.gameId = .ok game ∧
            game.id = command.gameId := by
    intro service bytes command game filed isCommand loaded traffic
    have isRouted := routed bytes command isCommand
    obtain ⟨stands, same⟩ := at_working_of_loaded isRouted loaded (.ofUnixSeconds 0)
    have stillLoaded : traffic.service.store.load command.gameId = .ok game := by
      rw [← loaded]
      exact congrArg (fun service : Service => service.store.load command.gameId) same
    obtain ⟨-, arrives⟩ := (each service filed).2 [(bytes, .ofUnixSeconds 0)] [0, 0, 0]
    obtain ⟨-, inLane, atWork, -⟩ := arrives _ _ command stands isCommand
    exact ⟨isRouted, stands, inLane command.gameId 0 rfl, game, stillLoaded,
      atWork command.gameId 0 game rfl stillLoaded⟩
  have isCommand : Command.ofBytes (⟨"g", "a", .ready⟩ : Command).bytes = .ok ⟨"g", "a", .ready⟩ :=
    Command.ofBytes_bytes_iff.mpr fun _ kept => nomatch kept
  have loads : ∀ timeout other : Double, timeout.restored? = some other → ∀ game,
      Game.deal "g" [⟨"a", ""⟩, ⟨"b", ""⟩] ⟨timeout⟩ 7 = .ok game →
        ((Service.ofSettings ⟨timeout⟩).after
          [.create "g" 7 [⟨"a", ""⟩, ⟨"b", ""⟩]]).store.load "g" =
            .ok { game with settings := ⟨other⟩ } := by
    intro timeout other restored game dealt
    exact Store.load_of_load? (Service.load?_create restored rfl dealt)
  have back : (Double.ofInt 30).restored? = some (Double.ofInt 30) := by decide +kernel
  exact reaches _ _ _ _ ((each _ (empty _)).1 _) isCommand (loads _ _ back _ Game.deal_duel)

end Traffic

end Durak
