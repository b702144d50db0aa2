import Durak.Proofs.Routing

/-!
# Commands one at a time

`Service.handleAll` handles commands one after another and `Service.answerTo` is the answer one of
them is given.  A command reads and writes the text of the game it addresses and no other, so what
becomes of a game, and what the commands that address it are answered, depends on those commands
and their order alone: the rest may be left out (`text?_filter`, `answerTo_filter`), and two orders
that agree on every game are the same to everybody.
-/

set_option autoImplicit false

namespace Durak

/-- A command that has been sent: its number among those sent with it, its bytes and its clock. -/
structure Sent where
  number : Nat
  bytes : List UInt8
  now : Instant
  deriving DecidableEq

/-- Whether a command is routed to a game. -/
def Sent.addresses (gameId : String) (sent : Sent) : Bool :=
  match Command.gameIdOf sent.bytes with
  | .ok id => id == gameId
  | .error _ => false

@[simp] theorem Sent.addresses_iff {gameId : String} {sent : Sent} :
    sent.addresses gameId = true ↔ Command.gameIdOf sent.bytes = .ok gameId := by
  rw [addresses]
  split
  · rename_i id isRouted
    simp [isRouted]
  · rename_i fault unreadable
    simp [unreadable]

/-- Some commands that are sent together. -/
def Sent.all (commands : List (List UInt8 × Instant)) : List Sent :=
  commands.mapIdx fun number command => ⟨number, command.1, command.2⟩

theorem Sent.mem_all_iff {commands : List (List UInt8 × Instant)} {sent : Sent} :
    sent ∈ Sent.all commands ↔ commands[sent.number]? = some (sent.bytes, sent.now) := by
  rw [Sent.all, List.mem_mapIdx]
  constructor
  · rintro ⟨number, inRange, rfl⟩
    exact List.getElem?_eq_getElem inRange
  · intro isCommand
    obtain ⟨inRange, isCommand⟩ := List.getElem?_eq_some_iff.mp isCommand
    exact ⟨sent.number, inRange, by rw [isCommand]⟩

theorem Sent.nodup_all (commands : List (List UInt8 × Instant)) : (Sent.all commands).Nodup := by
  refine List.Nodup.of_map Sent.number ?_
  have numbers : (Sent.all commands).map Sent.number = List.range commands.length :=
    List.ext_getElem (by simp [Sent.all]) fun number _ _ => by simp [Sent.all]
  rw [numbers]
  exact List.nodup_range

namespace Service

/-- The text that is stored under an id. -/
def text? (service : Service) (gameId : String) : Option String :=
  service.store.texts.lookup gameId

/-! ## One command -/

variable {service other : Service} {gameId : String} {bytes : List UInt8} {now : Instant}

theorem load_congr (same : service.text? gameId = other.text? gameId) :
    service.store.load gameId = other.store.load gameId := by
  have lookupSame : service.store.texts.lookup gameId = other.store.texts.lookup gameId := same
  rw [Store.load, Store.load, Store.load?, Store.load?, lookupSame]

/-- Saving leaves every other text as it was. -/
theorem text?_finish_of_ne {game : Game} {packs : Packs} {id : String} (apart : gameId ≠ game.id) :
    (service.finish id game packs).service.text? gameId = service.text? gameId := by
  rw [finish, Store.save]
  cases game.storedText? with
  | none => rfl
  | some text => exact lookup_insertKeyed_of_ne apart text service.store.texts

theorem text?_finish_congr (same : service.text? gameId = other.text? gameId) (id : String)
    (game : Game) (packs : Packs) :
    (service.finish id game packs).service.text? gameId =
      (other.finish id game packs).service.text? gameId := by
  by_cases apart : gameId = game.id
  · subst apart
    rw [finish, finish, Store.save, Store.save]
    cases game.storedText? with
    | none => exact same
    | some text =>
      exact (lookup_insertKeyed_self _ _ _).trans (lookup_insertKeyed_self _ _ _).symm
  · rw [text?_finish_of_ne apart, text?_finish_of_ne apart, same]

theorem answer_finish_congr (service other : Service) (id : String) (game : Game) (packs : Packs) :
    (service.finish id game packs).answer = (other.finish id game packs).answer := by
  rw [finish, finish, Store.save, Store.save]
  cases game.storedText? <;> rfl

theorem handle_of_unreadable {fault : CommandFault}
    (unreadable : Command.gameIdOf bytes = .error fault) :
    service.handle bytes now = ⟨service, .error fault.toFailure, []⟩ := by
  rw [handle, unreadable]

/-- A command on a game that cannot be loaded. -/
theorem handle_of_unloaded {failure : Failure} (isRouted : Command.gameIdOf bytes = .ok gameId)
    (unloaded : service.store.load gameId = .error failure) :
    (service.handle bytes now).service = service ∧
      (service.handle bytes now).answer = .error failure := by
  simp [handle, isRouted, transact, unloaded]

/-- A command that its game answers with a failure. -/
theorem handle_of_failed {game : Game} {failure : Failure}
    (isRouted : Command.gameIdOf bytes = .ok gameId)
    (loaded : service.store.load gameId = .ok game)
    (failed : (game.handle bytes now).answer = .error failure) :
    (service.handle bytes now).service = service ∧
      (service.handle bytes now).answer = .error failure := by
  simp [handle, isRouted, transact, loaded, failed]

/-- A command that its game answers with packs. -/
theorem handle_of_answered {game : Game} {packs : Packs}
    (isRouted : Command.gameIdOf bytes = .ok gameId)
    (loaded : service.store.load gameId = .ok game)
    (answered : (game.handle bytes now).answer = .ok packs) :
    (service.handle bytes now).service =
        (service.finish gameId (game.handle bytes now).game packs).service ∧
      (service.handle bytes now).answer =
        (service.finish gameId (game.handle bytes now).game packs).answer := by
  simp [handle, isRouted, transact, loaded, answered]

/-- A command leaves the text of every game alone that it does not address. -/
theorem text?_handle_of_ne (elsewhere : Command.gameIdOf bytes ≠ .ok gameId) :
    (service.handle bytes now).service.text? gameId = service.text? gameId := by
  cases isRouted : Command.gameIdOf bytes with
  | error fault => rw [handle_of_unreadable isRouted]
  | ok id =>
    cases loaded : service.store.load id with
    | error failure => rw [(handle_of_unloaded isRouted loaded).1]
    | ok game =>
      cases answered : (game.handle bytes now).answer with
      | error failure => rw [(handle_of_failed isRouted loaded answered).1]
      | ok packs =>
        obtain ⟨sameId, keepsId⟩ := Game.id_of_handle answered
        rw [(handle_of_answered isRouted loaded answered).1, text?_finish_of_ne]
        rw [keepsId]
        rintro rfl
        exact elsewhere sameId

/-- What a command does to its game, and its answer, depend on the text of that game only. -/
theorem handle_congr (isRouted : Command.gameIdOf bytes = .ok gameId)
    (same : service.text? gameId = other.text? gameId) :
    (service.handle bytes now).service.text? gameId =
        (other.handle bytes now).service.text? gameId ∧
      (service.handle bytes now).answer = (other.handle bytes now).answer := by
  cases loaded : service.store.load gameId with
  | error failure =>
    have otherLoaded := (load_congr same).symm.trans loaded
    obtain ⟨kept, answer⟩ := @handle_of_unloaded _ _ _ now _ isRouted loaded
    obtain ⟨otherKept, otherAnswer⟩ := @handle_of_unloaded _ _ _ now _ isRouted otherLoaded
    rw [kept, otherKept, answer, otherAnswer]
    exact ⟨same, rfl⟩
  | ok game =>
    have otherLoaded := (load_congr same).symm.trans loaded
    cases answered : (game.handle bytes now).answer with
    | error failure =>
      obtain ⟨kept, answer⟩ := handle_of_failed isRouted loaded answered
      obtain ⟨otherKept, otherAnswer⟩ := handle_of_failed isRouted otherLoaded answered
      rw [kept, otherKept, answer, otherAnswer]
      exact ⟨same, rfl⟩
    | ok packs =>
      obtain ⟨kept, answer⟩ := handle_of_answered isRouted loaded answered
      obtain ⟨otherKept, otherAnswer⟩ := handle_of_answered isRouted otherLoaded answered
      rw [kept, otherKept, answer, otherAnswer]
      exact ⟨text?_finish_congr same _ _ _, answer_finish_congr _ _ _ _ _⟩

/-! ## Many commands -/

/-- The service after some commands, handled one at a time. -/
def handleAll (service : Service) (order : List Sent) : Service :=
  order.foldl (fun service sent => (service.handle sent.bytes sent.now).service) service

/-- The answer to one of some commands that are handled one at a time. -/
def answerTo (sent : Sent) : Service → List Sent → Option (Except Failure Packs)
  | _, [] => none
  | service, next :: rest =>
    let served := service.handle next.bytes next.now
    if next = sent then some served.answer else answerTo sent served.service rest

variable {sent next : Sent} {order : List Sent}

@[simp] theorem handleAll_nil : service.handleAll [] = service := rfl

@[simp] theorem handleAll_cons :
    service.handleAll (next :: order) =
      (service.handle next.bytes next.now).service.handleAll order := rfl

@[simp] theorem handleAll_append (later : List Sent) :
    service.handleAll (order ++ later) = (service.handleAll order).handleAll later :=
  List.foldl_append

/-- Whoever has been answered is not answered again. -/
theorem answerTo_append_of_mem (present : sent ∈ order) (later : List Sent) :
    answerTo sent service (order ++ later) = answerTo sent service order := by
  induction order generalizing service with
  | nil => cases present
  | cons next rest hypothesis =>
    rw [List.cons_append, answerTo, answerTo]
    by_cases same : next = sent
    · simp [same]
    · simp only [same, if_false]
      exact hypothesis ((List.mem_cons.mp present).resolve_left (Ne.symm same))

theorem answerTo_append_of_not_mem (absent : sent ∉ order) (later : List Sent) :
    answerTo sent service (order ++ later) = answerTo sent (service.handleAll order) later := by
  induction order generalizing service with
  | nil => rfl
  | cons next rest hypothesis =>
    rw [List.mem_cons, not_or] at absent
    rw [List.cons_append, answerTo, if_neg (Ne.symm absent.1)]
    exact hypothesis absent.2

/-- The last of some commands is answered by the service after all the others. -/
theorem answerTo_last (absent : sent ∉ order) :
    answerTo sent service (order ++ [sent]) =
      some ((service.handleAll order).handle sent.bytes sent.now).answer := by
  rw [answerTo_append_of_not_mem absent, answerTo, if_pos rfl]

/-- A command that names no game is answered alike wherever it stands. -/
theorem answerTo_of_unreadable {fault : CommandFault}
    (unreadable : Command.gameIdOf sent.bytes = .error fault) (present : sent ∈ order) :
    answerTo sent service order = some (.error fault.toFailure) := by
  induction order generalizing service with
  | nil => cases present
  | cons next rest hypothesis =>
    rw [answerTo]
    by_cases same : next = sent
    · subst same
      simp [handle_of_unreadable unreadable]
    · simp only [same, if_false]
      exact hypothesis ((List.mem_cons.mp present).resolve_left (Ne.symm same))

/-- A game that cannot be loaded stays as it is. -/
theorem text?_of_unloaded {failure : Failure}
    (unloaded : service.store.load gameId = .error failure) (order : List Sent) :
    (service.handleAll order).text? gameId = service.text? gameId := by
  induction order generalizing service with
  | nil => rfl
  | cons next rest hypothesis =>
    have kept : (service.handle next.bytes next.now).service.text? gameId =
        service.text? gameId := by
      by_cases isFor : Command.gameIdOf next.bytes = .ok gameId
      · rw [(handle_of_unloaded isFor unloaded).1]
      · exact text?_handle_of_ne isFor
    exact (hypothesis ((load_congr kept).trans unloaded)).trans kept

/-- What becomes of a game is decided by the commands that address it. -/
theorem text?_filter (same : service.text? gameId = other.text? gameId) (order : List Sent) :
    (service.handleAll order).text? gameId =
      (other.handleAll (order.filter (Sent.addresses gameId))).text? gameId := by
  induction order generalizing service other with
  | nil => exact same
  | cons next rest hypothesis =>
    by_cases isFor : Command.gameIdOf next.bytes = .ok gameId
    · rw [List.filter_cons_of_pos (Sent.addresses_iff.mpr isFor)]
      exact hypothesis (handle_congr isFor same).1
    · rw [List.filter_cons_of_neg (mt Sent.addresses_iff.mp isFor)]
      exact hypothesis ((text?_handle_of_ne isFor).trans same)

/-- What a command is answered is decided by the commands that address its game. -/
theorem answerTo_filter (isFor : Command.gameIdOf sent.bytes = .ok gameId)
    (same : service.text? gameId = other.text? gameId) (order : List Sent) :
    answerTo sent service order =
      answerTo sent other (order.filter (Sent.addresses gameId)) := by
  induction order generalizing service other with
  | nil => rfl
  | cons next rest hypothesis =>
    by_cases nextFor : Command.gameIdOf next.bytes = .ok gameId
    · obtain ⟨sameText, sameAnswer⟩ := @handle_congr _ _ _ _ next.now nextFor same
      rw [List.filter_cons_of_pos (Sent.addresses_iff.mpr nextFor), answerTo, answerTo, sameAnswer,
        hypothesis sameText]
    · have apart : next ≠ sent := by
        rintro rfl
        exact nextFor isFor
      rw [List.filter_cons_of_neg (mt Sent.addresses_iff.mp nextFor), answerTo, if_neg apart]
      exact hypothesis ((text?_handle_of_ne nextFor).trans same)

/-- A command on a game that cannot be loaded is answered alike wherever it stands. -/
theorem answerTo_of_unloaded {failure : Failure} (isFor : Command.gameIdOf sent.bytes = .ok gameId)
    (unloaded : service.store.load gameId = .error failure) (present : sent ∈ order) :
    answerTo sent service order = some (.error failure) := by
  induction order generalizing service with
  | nil => cases present
  | cons next rest hypothesis =>
    rw [answerTo]
    by_cases same : next = sent
    · subst same
      simp [handle_of_unloaded isFor unloaded]
    · have kept : (service.handleAll [next]).text? gameId = service.text? gameId :=
        text?_of_unloaded unloaded [next]
      rw [if_neg same]
      exact hypothesis ((load_congr kept).trans unloaded)
        ((List.mem_cons.mp present).resolve_left (Ne.symm same))

/-- Two orders that agree on the games that can be loaded leave every game alike. -/
theorem text?_of_agreement {later : List Sent}
    (agree : ∀ id game, service.store.load id = .ok game →
      order.filter (Sent.addresses id) = later.filter (Sent.addresses id)) (gameId : String) :
    (service.handleAll order).text? gameId = (service.handleAll later).text? gameId := by
  cases loaded : service.store.load gameId with
  | error failure => rw [text?_of_unloaded loaded, text?_of_unloaded loaded]
  | ok game => rw [text?_filter rfl order, text?_filter rfl later, agree gameId game loaded]

/-- Two orders of the same commands that agree on the games that can be loaded answer every command
alike. -/
theorem answerTo_of_agreement {later : List Sent}
    (agree : ∀ id game, service.store.load id = .ok game →
      order.filter (Sent.addresses id) = later.filter (Sent.addresses id))
    (present : sent ∈ order) (presentLater : sent ∈ later) :
    answerTo sent service order = answerTo sent service later := by
  cases isRouted : Command.gameIdOf sent.bytes with
  | error fault =>
    rw [answerTo_of_unreadable isRouted present, answerTo_of_unreadable isRouted presentLater]
  | ok gameId =>
    cases loaded : service.store.load gameId with
    | error failure =>
      rw [answerTo_of_unloaded isRouted loaded present,
        answerTo_of_unloaded isRouted loaded presentLater]
    | ok game =>
      rw [answerTo_filter isRouted rfl order, answerTo_filter isRouted rfl later,
        agree gameId game loaded]

end Service

end Durak
