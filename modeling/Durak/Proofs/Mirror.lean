import Durak.Memory
import Durak.Proofs.Dealt
import Durak.Proofs.Sequence
import Durak.Proofs.Stored
import Durak.Proofs.Transaction
import Durak.Proofs.WholeSeconds

/-!
# A service mirrors its games in memory

`Service.Mirrors service memory` says that loading a game from a service gives the game that the
memory holds.  Every request keeps it so and gives the same on both sides (`Mirrors.serve`), because
a game is saved with no events left in it and reads back as it was; and therefore so does every run
of requests (`Mirrors.after`).  `Memory.Handled` lists once what can become of a command.

All of this needs that the turn timeout reads back.  One that does not makes the first game that is
loaded differ from the one that was dealt (`stored_timeout_can_drift`).
-/

set_option autoImplicit false

namespace Durak

/-! ## Reading the timeout -/

/-- A double is written with a fraction or an exponent. -/
theorem Double.isWhole_serialized (negative : Bool) (magnitude : Magnitude) :
    (Double.serialized negative magnitude).isWhole = false := by
  have shown : ∀ numeral : Numeral, numeral.withFraction.isWhole = false := by
    intro numeral
    unfold Numeral.withFraction
    split
    · rfl
    · rename_i fraction
      simp [Numeral.isWhole, fraction]
  unfold Double.serialized
  split
  · rfl
  · simp only
    split
    · exact shown _
    · simp [scientific, Numeral.isWhole]

/-- A double is read as what its numeral stands for. -/
theorem readsAs_of_restored? {timeout other : Double} (restored : timeout.restored? = some other) :
    ReadsAs Document.asDouble (.real timeout) other := by
  cases timeout with
  | finite negative magnitude =>
    have isRead : (Double.serialized negative magnitude).real? = some other := restored
    have number : (Double.serialized negative magnitude).number? = some (.real other) := by
      simp [Numeral.number?, Double.isWhole_serialized, isRead]
    unfold ReadsAs Json.toDocument Document.asDouble
    simp only [number]
  | notANumber => cases restored
  | infinite negative => cases restored

/-! ## Storing a game -/

theorem Timer.isSome_toJson? (timer : Timer) : timer.toJson?.isSome = timer.isWritable := by
  obtain ⟨running, startedAt⟩ := timer
  cases startedAt with
  | none => rfl
  | some instant =>
    simp only [toJson?, isWritable, Json.instantOrNull?, Instant.toJson?, Option.all_some]
    cases instant.timestamp? <;> rfl

/-- A game can be stored when both its timers can be written. -/
theorem Game.isSome_storedText? (game : Game) : game.storedText?.isSome = game.isWritable := by
  unfold isWritable storedText? toJson?
  rw [← Timer.isSome_toJson?, ← Timer.isSome_toJson?]
  cases game.attackTimer.toJson? <;> cases game.defendTimer.toJson? <;> rfl

namespace Store

variable {store : Store} {game : Game}

theorem save_of_unwritable (unwritable : game.isWritable = false) :
    store.save game = .error (.unstorableGame game.id Instant.unwritable) := by
  have noText : game.storedText? = none := by
    rw [← Option.not_isSome_iff_eq_none, game.isSome_storedText?, unwritable]
    exact Bool.false_ne_true
  rw [save, noText]

theorem exists_save_of_writable (writable : game.isWritable = true) :
    ∃ saved, store.save game = .ok saved := by
  rw [← game.isSome_storedText?] at writable
  obtain ⟨text, isText⟩ := Option.isSome_iff_exists.mp writable
  exact ⟨_, by rw [save, isText]⟩

/-- What is loaded after a game has been saved: that game without its events, with the timeout that
is read for its own, and any other game as before. -/
theorem load?_of_save {saved : Store} {timeout : Double} (isSaved : store.save game = .ok saved)
    (isRead : ReadsAs Document.asDouble (.real game.settings.turnTimeoutSeconds) timeout)
    (id : String) :
    saved.load? id =
      if id = game.id then .ok (some { game with settings := ⟨timeout⟩, events := [] })
      else store.load? id := by
  rw [save] at isSaved
  split at isSaved
  · rename_i text isText
    cases isSaved
    by_cases same : id = game.id
    · rw [if_pos same, same, load?, lookup_insertKeyed_self]
      simp only [Game.ofStoredText_of_storedText? isText isRead]
    · rw [if_neg same, load?, load?, lookup_insertKeyed_of_ne same]
  · cases isSaved

end Store

/-! ## What a transaction leaves -/

namespace Game

variable {game : Game} {bytes : List UInt8} {now : Instant}

/-- The only failure of writing packs is a pack that cannot be written. -/
theorem eq_unwritablePack_of_writePacks {packs : List (String × Pack)} {written : Packs}
    {failure : Failure} (failed : (game.writePacks written packs).1 = .error failure) :
    failure = .unwritablePack Instant.unwritable := by
  induction packs generalizing written with
  | nil => cases failed
  | cons pack rest hypothesis =>
    obtain ⟨recipient, pack⟩ := pack
    rw [writePacks] at failed
    split at failed
    · exact hypothesis failed
    · cases failed
      rfl

/-- A transaction on the game its command is routed to fails for a command that cannot be read, for
a user without a seat or for a pack that cannot be written. -/
theorem code_of_handle {failure : Failure} (isRouted : Command.gameIdOf bytes = .ok game.id)
    (failed : (game.handle bytes now).answer = .error failure) :
    failure.code = .badRequest ∨ failure.code = .playerNotFound ∨ failure.code = .internal := by
  cases decoded : Command.ofBytes bytes with
  | error fault =>
    rw [handle_of_fault decoded] at failed
    cases failed
    exact .inl rfl
  | ok command =>
    have ours : command.gameId = game.id :=
      Except.ok.inj ((Command.gameIdOf_of_ofBytes decoded).symm.trans isRouted)
    by_cases seated : command.userId ∈ game.seatIds
    · rw [handle_of_seated decoded ours seated] at failed
      rw [eq_unwritablePack_of_writePacks failed]
      exact .inr (.inr rfl)
    · rw [handle_of_unseated decoded ours seated] at failed
      cases failed
      exact .inr (.inl rfl)

/-- A transaction that gives packs leaves the game as its command made it, accepted or not, with
the events handed out. -/
theorem exists_command_of_handle {packs : Packs}
    (answered : (game.handle bytes now).answer = .ok packs) :
    ∃ command, Command.ofBytes bytes = .ok command ∧ command.gameId = game.id ∧
      (game.handle bytes now).game =
        (game.apply command.userId command.action now).game.withoutEvents := by
  obtain ⟨command, decoded, ours, -, executed⟩ := exists_command_of_answer answered
  exact ⟨command, decoded, ours, by rw [executed]; rfl⟩

/-- A transaction that gives packs leaves id and settings as they were, and no events. -/
theorem leavings_of_handle {packs : Packs} (answered : (game.handle bytes now).answer = .ok packs) :
    (game.handle bytes now).game.id = game.id ∧
      (game.handle bytes now).game.settings = game.settings ∧
      (game.handle bytes now).game.events = [] := by
  obtain ⟨command, -, -, made⟩ := exists_command_of_handle answered
  refine ⟨(id_of_handle answered).2, ?_, ?_⟩
  · rw [made]
    exact settings_eq_of_terms (terms_apply game command.userId command.action now)
  · rw [made]
    rfl

end Game

/-! ## What a memory does -/

namespace Memory

/-- What can become of the bytes of a command: the memory after it, and the reply. -/
inductive Handled (memory : Memory) (bytes : List UInt8) (now : Instant) :
    Memory × Except Failure Response → Prop where
  | unreadable {fault : CommandFault} (isFault : Command.gameIdOf bytes = .error fault) :
      Handled memory bytes now (memory, .error fault.toFailure)
  | unknown {gameId : String} (isRouted : Command.gameIdOf bytes = .ok gameId)
      (absent : memory.games.lookup gameId = none) :
      Handled memory bytes now (memory, .error (.unknownGame gameId))
  | refused {gameId : String} {game : Game} {failure : Failure}
      (isRouted : Command.gameIdOf bytes = .ok gameId)
      (isHeld : memory.games.lookup gameId = some game)
      (answered : (game.handle bytes now).answer = .error failure) :
      Handled memory bytes now (memory, .error failure)
  | unwritable {gameId : String} {game : Game} {packs : Packs}
      (isRouted : Command.gameIdOf bytes = .ok gameId)
      (isHeld : memory.games.lookup gameId = some game)
      (answered : (game.handle bytes now).answer = .ok packs)
      (lost : (game.handle bytes now).game.isWritable = false) :
      Handled memory bytes now (memory, .error (.unstorableGame gameId Instant.unwritable))
  | kept {gameId : String} {game : Game} {packs : Packs}
      (isRouted : Command.gameIdOf bytes = .ok gameId)
      (isHeld : memory.games.lookup gameId = some game)
      (answered : (game.handle bytes now).answer = .ok packs)
      (writable : (game.handle bytes now).game.isWritable = true) :
      Handled memory bytes now
        ({ memory with games := insertKeyed gameId (game.handle bytes now).game memory.games },
          .ok (.packs packs))

theorem handled (memory : Memory) (bytes : List UInt8) (now : Instant) :
    Handled memory bytes now (memory.handle bytes now) := by
  rw [handle]
  split
  · rename_i isFault
    exact .unreadable isFault
  · rename_i isRouted
    split
    · rename_i absent
      exact .unknown isRouted absent
    · rename_i game isHeld
      simp only [transact]
      split
      · rename_i answered
        exact .refused isRouted isHeld answered
      · rename_i answered
        split
        · rename_i writable
          exact .kept isRouted isHeld answered writable
        · rename_i lost
          exact .unwritable isRouted isHeld answered (Bool.eq_false_iff.mpr lost)

theorem settings_serve (memory : Memory) (request : Request) :
    (memory.serve request).1.settings = memory.settings := by
  cases request with
  | create id seed entrants =>
    show (memory.create id seed entrants).1.settings = memory.settings
    rw [create]
    split <;> rfl
  | command bytes now =>
    have step := memory.handled bytes now
    show (memory.handle bytes now).1.settings = memory.settings
    generalize memory.handle bytes now = result at step ⊢
    cases step <;> rfl

/-- A memory into which a game has been dealt holds that game. -/
theorem after_create {settings : Settings} {id : String} {seed : UInt64} {entrants : List Entrant}
    {game : Game} (dealt : Game.deal id entrants settings seed = .ok game)
    (requests : List Request) :
    (ofSettings settings).after (.create id seed entrants :: requests) =
      (⟨[(id, game)], settings⟩ : Memory).after requests := by
  have made : ((ofSettings settings).create id seed entrants).1 = ⟨[(id, game)], settings⟩ := by
    rw [create, show (ofSettings settings).settings = settings from rfl, dealt]
    rfl
  rw [← made]
  rfl

end Memory

/-! ## Keeping up -/

namespace Service

/-- A service whose games are loaded as a memory holds them.  Every game is held under its id, with
no events left to hand out and a timeout that reads back. -/
structure Mirrors (service : Service) (memory : Memory) : Prop where
  settings : service.settings = memory.settings
  loads : ∀ id, service.store.load? id = .ok (memory.games.lookup id)
  held : ∀ id game, memory.games.lookup id = some game →
    game.id = id ∧ game.events = [] ∧ game.settings.turnTimeoutSeconds.readsBack = true

variable {service : Service} {memory : Memory}

/-- Saving a game without events puts it into the memory. -/
theorem Mirrors.save (mirrors : service.Mirrors memory) {game : Game} {saved : Store}
    (isSaved : service.store.save game = .ok saved) (silent : game.events = [])
    (back : game.settings.turnTimeoutSeconds.readsBack = true) :
    Mirrors { service with store := saved }
      { memory with games := insertKeyed game.id game memory.games } := by
  have same :
      { game with settings := ⟨game.settings.turnTimeoutSeconds⟩, events := [] } = game := by
    obtain ⟨⟩ := game
    cases silent
    rfl
  refine ⟨mirrors.settings, fun id => ?_, fun id kept isKept => ?_⟩
  · show saved.load? id = .ok ((insertKeyed game.id game memory.games).lookup id)
    rw [Store.load?_of_save isSaved (readsAs_of_restored? (eq_of_beq back)), same]
    by_cases own : id = game.id
    · rw [if_pos own, own, lookup_insertKeyed_self]
    · rw [if_neg own, lookup_insertKeyed_of_ne own, mirrors.loads]
  · by_cases own : id = game.id
    · subst own
      rw [lookup_insertKeyed_self] at isKept
      cases isKept
      exact ⟨rfl, silent, back⟩
    · rw [lookup_insertKeyed_of_ne own] at isKept
      exact mirrors.held id kept isKept

/-- Dealing keeps service and memory alike. -/
theorem Mirrors.create (mirrors : service.Mirrors memory)
    (readsBack : memory.settings.turnTimeoutSeconds.isWithin longestTimeout = true →
      memory.settings.turnTimeoutSeconds.readsBack = true)
    (id : String) (seed : UInt64) (entrants : List Entrant) :
    (service.serve (.create id seed entrants)).2 = (memory.create id seed entrants).2 ∧
      Mirrors (service.serve (.create id seed entrants)).1 (memory.create id seed entrants).1 := by
  rw [serve, Service.create, Memory.create, mirrors.settings]
  cases dealt : Game.deal id entrants memory.settings seed with
  | error fault => exact ⟨rfl, mirrors⟩
  | ok game =>
    obtain ⟨inOrder, trump, cards, attackerSeat, -, -, rfl⟩ := deal_eq_ok dealt
    obtain ⟨saved, isSaved⟩ : ∃ saved, service.store.save
        (Game.arranged id entrants memory.settings trump cards attackerSeat) = .ok saved :=
      Store.exists_save_of_writable rfl
    have follows := mirrors.save isSaved rfl
      (readsBack (setupFault?_eq_none_iff.mp inOrder).2.2)
    rw [mirrors.settings] at follows
    simp only [isSaved, true_and]
    exact follows

theorem Mirrors.load_of_held (mirrors : service.Mirrors memory) {gameId : String} {game : Game}
    (isHeld : memory.games.lookup gameId = some game) :
    service.store.load gameId = .ok game := by
  rw [Store.load, mirrors.loads, isHeld]

theorem Mirrors.load_of_absent (mirrors : service.Mirrors memory) {gameId : String}
    (absent : memory.games.lookup gameId = none) :
    service.store.load gameId = .error (.unknownGame gameId) := by
  rw [Store.load, mirrors.loads, absent]

/-- A command is given the same answer by service and memory, and keeps them alike. -/
theorem Mirrors.handle (mirrors : service.Mirrors memory) (bytes : List UInt8) (now : Instant) :
    (service.handle bytes now).answer.map .packs = (memory.handle bytes now).2 ∧
      Mirrors (service.handle bytes now).service (memory.handle bytes now).1 := by
  have step := memory.handled bytes now
  generalize memory.handle bytes now = result at step ⊢
  cases step with
  | unreadable isFault =>
    rw [handle_of_unreadable isFault]
    exact ⟨rfl, mirrors⟩
  | unknown isRouted absent =>
    obtain ⟨same, answer⟩ :=
      @handle_of_unloaded _ _ _ now _ isRouted (mirrors.load_of_absent absent)
    rw [same, answer]
    exact ⟨rfl, mirrors⟩
  | refused isRouted isHeld answered =>
    obtain ⟨same, answer⟩ := handle_of_failed isRouted (mirrors.load_of_held isHeld) answered
    rw [same, answer]
    exact ⟨rfl, mirrors⟩
  | @unwritable gameId game packs isRouted isHeld answered lost =>
    obtain ⟨sameId, -, -⟩ := Game.leavings_of_handle answered
    obtain ⟨finished, answer⟩ :=
      handle_of_answered isRouted (mirrors.load_of_held isHeld) answered
    rw [finished, answer, finish, Store.save_of_unwritable lost, sameId,
      (mirrors.held gameId game isHeld).1]
    exact ⟨rfl, mirrors⟩
  | @kept gameId game packs isRouted isHeld answered writable =>
    obtain ⟨isId, -, back⟩ := mirrors.held gameId game isHeld
    obtain ⟨sameId, sameSettings, silent⟩ := Game.leavings_of_handle answered
    obtain ⟨finished, answer⟩ :=
      handle_of_answered isRouted (mirrors.load_of_held isHeld) answered
    obtain ⟨saved, isSaved⟩ := @Store.exists_save_of_writable service.store _ writable
    have follows := mirrors.save isSaved silent (sameSettings ▸ back)
    rw [sameId, isId] at follows
    rw [finished, answer, finish, isSaved]
    exact ⟨rfl, follows⟩

/-- **A request is given the same by service and memory, and keeps them alike.** -/
theorem Mirrors.serve (mirrors : service.Mirrors memory)
    (readsBack : memory.settings.turnTimeoutSeconds.isWithin longestTimeout = true →
      memory.settings.turnTimeoutSeconds.readsBack = true) (request : Request) :
    (service.serve request).2 = (memory.serve request).2 ∧
      Mirrors (service.serve request).1 (memory.serve request).1 := by
  cases request with
  | create id seed entrants => exact mirrors.create readsBack id seed entrants
  | command bytes now => exact mirrors.handle bytes now

/-- **A service mirrors a memory after any run of requests.** -/
theorem Mirrors.after (mirrors : service.Mirrors memory)
    (readsBack : memory.settings.turnTimeoutSeconds.isWithin longestTimeout = true →
      memory.settings.turnTimeoutSeconds.readsBack = true) (requests : List Request) :
    (service.after requests).Mirrors (memory.after requests) ∧
      (memory.after requests).settings = memory.settings := by
  induction requests generalizing service memory with
  | nil => exact ⟨mirrors, rfl⟩
  | cons request requests hypothesis =>
    have same := memory.settings_serve request
    obtain ⟨later, kept⟩ :=
      hypothesis (mirrors.serve readsBack request).2 (by rw [same]; exact readsBack)
    exact ⟨later, kept.trans same⟩

theorem mirrors_ofSettings (settings : Settings) :
    (ofSettings settings).Mirrors (Memory.ofSettings settings) :=
  ⟨rfl, fun _ => rfl, fun _ _ isHeld => nomatch isHeld⟩

/-- A service in which one game has just been dealt mirrors the memory of that game. -/
theorem mirrors_of_deal {timeout : Double} (back : timeout.readsBack = true) {id : String}
    {seed : UInt64} {entrants : List Entrant} {game : Game}
    (dealt : Game.deal id entrants ⟨timeout⟩ seed = .ok game) :
    ((ofSettings ⟨timeout⟩).after [.create id seed entrants]).Mirrors
      ⟨[(id, game)], ⟨timeout⟩⟩ := by
  have mirrors :=
    ((mirrors_ofSettings ⟨timeout⟩).after (fun _ => back) [.create id seed entrants]).1
  rwa [Memory.after_create dealt] at mirrors

/-! ## Failures -/

/-- A command that fails leaves the service as it was. -/
theorem service_of_handle_failed {bytes : List UInt8} {now : Instant} {failure : Failure}
    (failed : (service.handle bytes now).answer = .error failure) :
    (service.handle bytes now).service = service := by
  cases isRouted : Command.gameIdOf bytes with
  | error fault => rw [handle_of_unreadable isRouted]
  | ok gameId =>
    cases loaded : service.store.load gameId with
    | error failure => exact (handle_of_unloaded isRouted loaded).1
    | ok game =>
      cases answered : (game.handle bytes now).answer with
      | error failure => exact (handle_of_failed isRouted loaded answered).1
      | ok packs =>
        obtain ⟨finished, answer⟩ := handle_of_answered isRouted loaded answered
        rw [answer, finish] at failed
        rw [finished, finish]
        cases isSaved : service.store.save (game.handle bytes now).game with
        | ok saved => simp [isSaved] at failed
        | error failure => rfl

/-- A request that fails leaves the service as it was. -/
theorem serve_of_failed {request : Request} {failure : Failure}
    (failed : (service.serve request).2 = .error failure) :
    (service.serve request).1 = service := by
  cases request with
  | create id seed entrants =>
    rw [serve] at failed ⊢
    cases created : service.create id seed entrants with
    | ok result => simp [created] at failed
    | error failure => rfl
  | command bytes now =>
    have noAnswer : (service.handle bytes now).answer.map Response.packs = .error failure := failed
    cases answered : (service.handle bytes now).answer with
    | ok packs => simp [answered, Except.map] at noAnswer
    | error failure => exact service_of_handle_failed answered

/-- No request fails with a wrong game id or with a corrupt game. -/
theorem Mirrors.code_of_failed (mirrors : service.Mirrors memory) {request : Request}
    {failure : Failure} (failed : (memory.serve request).2 = .error failure) :
    failure.code ≠ .invalidGameId ∧ failure.code ≠ .dataCorruption := by
  cases request with
  | create id seed entrants =>
    have failed : (memory.create id seed entrants).2 = .error failure := failed
    rw [Memory.create] at failed
    split at failed
    · rename_i fault _
      cases failed
      cases fault <;> exact ⟨nofun, nofun⟩
    · cases failed
  | command bytes now =>
    have failed : (memory.handle bytes now).2 = .error failure := failed
    have step := memory.handled bytes now
    generalize memory.handle bytes now = result at step failed
    cases step with
    | unreadable isFault =>
      cases failed
      exact ⟨nofun, nofun⟩
    | unknown isRouted absent =>
      cases failed
      exact ⟨nofun, nofun⟩
    | refused isRouted isHeld answered =>
      cases failed
      rw [← (mirrors.held _ _ isHeld).1] at isRouted
      obtain code | code | code := Game.code_of_handle isRouted answered <;> simp [code]
    | unwritable isRouted isHeld answered lost =>
      cases failed
      exact ⟨nofun, nofun⟩
    | kept isRouted isHeld answered writable => cases failed

/-- What dealing does to a service: the game is saved, and nothing else happens. -/
theorem save_of_create {created : Service} {id : String} {seed : UInt64} {entrants : List Entrant}
    {game : Game} {log : Log}
    (isCreated : service.create id seed entrants = .ok (created, game, log)) :
    game.id = id ∧ service.store.save game = .ok created.store := by
  rw [Service.create] at isCreated
  split at isCreated
  · cases isCreated
  · rename_i dealt isDealt
    split at isCreated
    · cases isCreated
    · rename_i store isSaved
      cases isCreated
      obtain ⟨-, _, _, _, -, -, rfl⟩ := deal_eq_ok isDealt
      exact ⟨rfl, isSaved⟩

/-- A request leaves the text of every game alone that it is not about. -/
theorem text?_serve_of_ne {request : Request} {gameId : String}
    (elsewhere : ¬request.concerns gameId) :
    (service.serve request).1.text? gameId = service.text? gameId := by
  cases request with
  | create id seed entrants =>
    rw [serve]
    cases isCreated : service.create id seed entrants with
    | error failure => rfl
    | ok result =>
      obtain ⟨created, game, log⟩ := result
      obtain ⟨sameId, isSaved⟩ := save_of_create isCreated
      have apart : gameId ≠ game.id := fun same => elsewhere (sameId.symm.trans same.symm)
      rw [Store.save] at isSaved
      split at isSaved
      · rename_i text _
        show created.store.texts.lookup gameId = _
        rw [← Except.ok.inj isSaved]
        exact lookup_insertKeyed_of_ne apart text service.store.texts
      · cases isSaved
  | command bytes now => exact text?_handle_of_ne elsewhere

/-- A command that is answered with packs leaves in the memory what it made of its game, accepted or
not. -/
theorem exists_command_of_handle {bytes : List UInt8} {now : Instant} {packs : Packs}
    (mirrors : service.Mirrors memory)
    (answered : (memory.handle bytes now).2 = .ok (.packs packs)) :
    ∃ command game, Command.ofBytes bytes = .ok command ∧
      memory.games.lookup command.gameId = some game ∧
      (memory.handle bytes now).1.games.lookup command.gameId =
        some (game.apply command.userId command.action now).game.withoutEvents := by
  have step := memory.handled bytes now
  generalize memory.handle bytes now = result at step answered ⊢
  cases step with
  | @kept gameId game packs isRouted isHeld isAnswer writable =>
    obtain ⟨command, isCommand, ours, made⟩ := Game.exists_command_of_handle isAnswer
    have sameId : command.gameId = gameId := ours.trans (mirrors.held gameId game isHeld).1
    refine ⟨command, game, isCommand, sameId ▸ isHeld, ?_⟩
    rw [sameId, lookup_insertKeyed_self, made]
  | unreadable isFault => cases answered
  | unknown isRouted absent => cases answered
  | refused isRouted isHeld failed => cases answered
  | unwritable isRouted isHeld isAnswer lost => cases answered

/-- A game that has been dealt is in the memory. -/
theorem lookup_create {id : String} {seed : UInt64} {entrants : List Entrant} {game : Game}
    (dealt : Game.deal id entrants memory.settings seed = .ok game) :
    (memory.serve (.create id seed entrants)).1.games.lookup id = some game := by
  show (memory.create id seed entrants).1.games.lookup id = some game
  rw [Memory.create, dealt]
  exact lookup_insertKeyed_self id game memory.games

/-- A game that has been dealt is loaded with what its timeout is read as. -/
theorem load?_create {timeout other : Double} (restored : timeout.restored? = some other)
    {id : String} {seed : UInt64} {entrants : List Entrant} {game : Game}
    (isSettings : service.settings = ⟨timeout⟩)
    (dealt : Game.deal id entrants ⟨timeout⟩ seed = .ok game) :
    (service.serve (.create id seed entrants)).1.store.load? id =
      .ok (some { game with settings := ⟨other⟩ }) := by
  obtain ⟨-, trump, cards, attackerSeat, -, -, rfl⟩ := deal_eq_ok dealt
  obtain ⟨saved, isSaved⟩ : ∃ saved, service.store.save
      (Game.arranged id entrants ⟨timeout⟩ trump cards attackerSeat) = .ok saved :=
    Store.exists_save_of_writable rfl
  have loaded := (Store.load?_of_save isSaved (readsAs_of_restored? restored) id).trans (if_pos rfl)
  simp only [serve, Service.create, isSettings, dealt, isSaved]
  exact loaded

/-! ## The service and the games -/

/-- **A service serves every request as if its games were never written down.**  Whatever was asked
before, a request is given what the memory gives to it, and afterwards every game is loaded as the
memory holds it, with no events left.  A failure leaves all texts as they were, and is never for a
wrong game id or a corrupt game; no request touches the text of a game it is not about; and a
command that is answered is kept as its game was left by it, also when it broke a rule.  All this
needs a timeout that reads back, as every whole number of seconds does (`Double.readsBack_ofInt`). -/
theorem serves_from_memory (settings : Settings)
    (readsBack : settings.turnTimeoutSeconds.isWithin longestTimeout = true →
      settings.turnTimeoutSeconds.readsBack = true)
    (before : List Request) (request : Request) :
    let service := (ofSettings settings).after before
    let memory := (Memory.ofSettings settings).after before
    let served := service.serve request
    let kept := memory.serve request
    served.2 = kept.2 ∧
      (∀ id, served.1.store.load? id = .ok (kept.1.games.lookup id)) ∧
      (∀ id game, kept.1.games.lookup id = some game → game.events = []) ∧
      (∀ failure, served.2 = .error failure → served.1 = service ∧
        failure.code ≠ .invalidGameId ∧ failure.code ≠ .dataCorruption) ∧
      (∀ id, ¬request.concerns id → served.1.text? id = service.text? id) ∧
      (∀ bytes now packs, request = .command bytes now → served.2 = .ok (.packs packs) →
        ∃ command game, Command.ofBytes bytes = .ok command ∧
          memory.games.lookup command.gameId = some game ∧
          served.1.store.load? command.gameId =
            .ok (some (game.apply command.userId command.action now).game.withoutEvents)) := by
  intro service memory served kept
  obtain ⟨mirrors, sameSettings⟩ := (mirrors_ofSettings settings).after readsBack before
  have stillReadsBack : memory.settings.turnTimeoutSeconds.isWithin longestTimeout = true →
      memory.settings.turnTimeoutSeconds.readsBack = true := by
    rw [show memory.settings = settings from sameSettings]
    exact readsBack
  obtain ⟨sameReply, later⟩ := mirrors.serve stillReadsBack request
  refine ⟨sameReply, later.loads, fun id game isHeld => (later.held id game isHeld).2.1, ?_,
    fun id elsewhere => text?_serve_of_ne elsewhere, ?_⟩
  · intro failure failed
    exact ⟨serve_of_failed failed, mirrors.code_of_failed (sameReply.symm.trans failed)⟩
  · rintro bytes now packs rfl answered
    obtain ⟨command, game, isCommand, isHeld, isKept⟩ :=
      exists_command_of_handle mirrors (sameReply.symm.trans answered)
    exact ⟨command, game, isCommand, isHeld, (later.loads _).trans (congrArg Except.ok isKept)⟩

/-- A request by which a duel is dealt. -/
def dealsDuel : Request := .create "g" 7 [⟨"a", ""⟩, ⟨"b", ""⟩]

/-- A request by which a player of the duel gets ready. -/
def getsReady (id : String) : Request :=
  .command (Command.asciiBytes ⟨"g", id, .ready⟩) (.ofUnixSeconds 0)

/-- A request by which the attacker of the duel lays a nine, long after the time for it. -/
def laysNineLate : Request := .command Game.laysNine.asciiBytes (.ofUnixSeconds 100)

/-- Two players get ready, and the duel that is loaded has been started.  Then the attacker comes too
late with a card, which breaks a rule and closes the round: in the duel that is loaded the other one
attacks. -/
theorem serves_from_memory_a_late_attack :
    let accepted := ((ofSettings ⟨Double.ofInt 30⟩).after [dealsDuel, getsReady "a"]).serve
      (getsReady "b")
    let late := ((ofSettings ⟨Double.ofInt 30⟩).after
      [dealsDuel, getsReady "a", getsReady "b"]).serve laysNineLate
    (Double.ofInt 30).readsBack = true ∧
      (∃ packs game, accepted.2 = .ok (.packs packs) ∧
        accepted.1.store.load? "g" = .ok (some game) ∧ game.started = true ∧
        (game.apply "b" Game.laysNine.action (.ofUnixSeconds 100)).violation =
          some .attackTimeOver) ∧
      ∃ packs game, late.2 = .ok (.packs packs) ∧ late.1.store.load? "g" = .ok (some game) ∧
        (game.attackerId, game.events) = ("a", []) := by
  have back : (Double.ofInt 30).readsBack = true :=
    Double.readsBack_ofInt (by decide) (by decide)
  -- for any timeout and requests first, so that nothing computes with the ones given
  have mirrored : ∀ timeout : Double, timeout.readsBack = true → ∀ dealt,
      Game.deal "g" [⟨"a", ""⟩, ⟨"b", ""⟩] ⟨timeout⟩ 7 = .ok dealt →
      ∀ (before : List Request) (request : Request) (good : Game → Bool),
      let kept := ((⟨[("g", dealt)], ⟨timeout⟩⟩ : Memory).after before).serve request
      (match kept.2 with | .ok (.packs _) => true | _ => false) = true →
      (kept.1.games.lookup "g").any good = true →
      let served := ((ofSettings ⟨timeout⟩).after (dealsDuel :: before)).serve request
      ∃ packs game, served.2 = .ok (.packs packs) ∧ served.1.store.load? "g" = .ok (some game) ∧
        good game = true := by
    intro timeout back dealt isDealt before request good kept isPacks isGood served
    obtain ⟨reply, loads, -⟩ :=
      serves_from_memory ⟨timeout⟩ (fun _ => back) (dealsDuel :: before) request
    rw [dealsDuel, Memory.after_create isDealt] at reply loads
    obtain ⟨game, isHeld, holds⟩ := (Option.any_eq_true _ _).mp isGood
    split at isPacks
    · rename_i packs isReply
      exact ⟨packs, game, reply.trans isReply, (loads "g").trans (congrArg Except.ok isHeld), holds⟩
    · cases isPacks
  obtain ⟨packs, game, answer, loaded, starts⟩ := mirrored (Double.ofInt 30) back Game.duel
    Game.deal_duel [getsReady "a"] (getsReady "b")
    (fun game => game.started && (game.apply "b" Game.laysNine.action
      (.ofUnixSeconds 100)).violation == some .attackTimeOver)
    (by decide +kernel) (by decide +kernel)
  obtain ⟨morePacks, later, lateAnswer, lateLoaded, closed⟩ := mirrored (Double.ofInt 30) back
    Game.duel Game.deal_duel [getsReady "a", getsReady "b"] laysNineLate
    (fun game => (game.attackerId, game.events) == ("a", [])) (by decide +kernel)
    (by decide +kernel)
  rw [Bool.and_eq_true, beq_iff_eq] at starts
  exact ⟨back, ⟨packs, game, answer, loaded, starts⟩, morePacks, later, lateAnswer, lateLoaded,
    eq_of_beq closed⟩

/-- **A timeout that is read as another double makes every game that is dealt differ from the one
that is loaded.** -/
theorem load?_create_ne {timeout other : Double} (restored : timeout.restored? = some other)
    (drifts : other ≠ timeout) {id : String} {seed : UInt64} {entrants : List Entrant} {game : Game}
    (dealt : Game.deal id entrants ⟨timeout⟩ seed = .ok game) :
    ((ofSettings ⟨timeout⟩).serve (.create id seed entrants)).1.store.load? id ≠
      .ok (((Memory.ofSettings ⟨timeout⟩).serve (.create id seed entrants)).1.games.lookup id) := by
  have isHeld := @lookup_create (Memory.ofSettings ⟨timeout⟩) _ _ _ _ dealt
  have isLoaded := @load?_create (ofSettings ⟨timeout⟩) _ _ restored _ _ _ _ rfl dealt
  have sameSettings : game.settings = ⟨timeout⟩ := by
    obtain ⟨-, _, _, _, -, -, rfl⟩ := deal_eq_ok dealt
    rfl
  rw [isLoaded, isHeld]
  intro same
  have settings := congrArg Game.settings (Option.some.inj (Except.ok.inj same))
  exact drifts (congrArg Settings.turnTimeoutSeconds (settings.trans sameSettings))

/-- Whether a service with this timeout loads the duel as it was dealt. -/
def LoadsDuel (timeout : Double) : Prop :=
  ((ofSettings ⟨timeout⟩).serve dealsDuel).1.store.load? "g" =
    .ok (((Memory.ofSettings ⟨timeout⟩).serve dealsDuel).1.games.lookup "g")

theorem not_loadsDuel {timeout : Double} (allowed : timeout.isWithin longestTimeout = true)
    (isRead : timeout.restored?.isSome = true) (drifts : timeout.restored? ≠ some timeout) :
    ¬LoadsDuel timeout := by
  obtain ⟨other, restored⟩ := Option.isSome_iff_exists.mp isRead
  have inOrder : setupFault? [⟨"a", ""⟩, ⟨"b", ""⟩] ⟨timeout⟩ = none :=
    setupFault?_eq_none_iff.mpr ⟨by decide, by decide, allowed⟩
  obtain ⟨game, dealt⟩ := exists_deal_eq_ok inOrder "g" 7
  refine load?_create_ne restored (fun same => drifts ?_) dealt
  rw [restored, same]

/-- A duel is not loaded as it was dealt with ninety seconds and a third, whose sixteen digits are a
whole number of more than fifty-three binary places; and with neither of the doubles nearest to
1e-24 and to 1.0000000000000001e-24, because each of them is read as the other. -/
theorem stored_timeout_can_drift :
    ¬LoadsDuel (Double.ofDecimal false 9033333333333333 (-14)) ∧
      ¬LoadsDuel (Double.ofDecimal false 1 (-24)) ∧
      ¬LoadsDuel (Double.ofDecimal false 10000000000000001 (-40)) := by
  refine ⟨not_loadsDuel ?_ ?_ ?_, not_loadsDuel ?_ ?_ ?_, not_loadsDuel ?_ ?_ ?_⟩ <;>
    decide +kernel

end Service

end Durak
