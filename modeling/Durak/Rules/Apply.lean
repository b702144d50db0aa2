import Durak.Action
import Durak.Card.Token
import Durak.Rules.Check
import Durak.Rules.Round

/-!
# Applying a command

`Game.apply` is the state machine of the game.  Each action first runs its checks in a fixed order;
the first that fails rejects the command, and the game stays as it was.  There are two exceptions,
which let a game go on that waits for somebody: an attack after the attack timer has run out closes
the round, and a defence after the defend timer has run out announces the end of the attack.
-/

set_option autoImplicit false

namespace Durak

/-- What a command did: the game after it, the rule it broke, and the records of what happened. -/
structure Outcome where
  game : Game
  violation : Option Violation
  log : Log

namespace Outcome

/-- A command that was carried out. -/
def accepted (game : Game) (log : Log) : Outcome := ⟨game, none, log⟩

/-- A command that was rejected. -/
def rejected (game : Game) (violation : Violation) (log : Log) : Outcome :=
  ⟨game, some violation, log⟩

end Outcome

/-- The violation of the first check that fails. -/
def firstViolation (checks : List (Option Violation)) : Option Violation := checks.findSome? id

theorem firstViolation_eq_none_iff {checks : List (Option Violation)} :
    firstViolation checks = none ↔ ∀ check ∈ checks, check = none := by
  simp [firstViolation]

namespace Game

/-- A record about what a user did in a game. -/
def userRecord (game : Game) (level : LogLevel) (userId : String)
    (fields : List (String × LogValue)) (message : String) : LogRecord :=
  ⟨level, .rules, message, ("game_id", .text game.id) :: ("user_id", .text userId) :: fields⟩

/-- The game with a card taken out of a player's hand, and whether the card was there. -/
def removeCard (game : Game) (userId : String) (card : Card) : Option Game :=
  match game.player? userId with
  | some player =>
    if player.hand.contains card then
      some <| game.updatePlayer userId fun player => { player with hand := player.hand.erase card }
    else none
  | none => none

/-! ## Getting ready -/

/-- Whether every player has said to be ready. -/
def everyoneReady (game : Game) : Bool :=
  game.players.all fun player => game.readyVotes.contains player.id

/-- Starts the game: the attack timer runs from now on. -/
def start (game : Game) (now : Instant) : Game :=
  let started := { game with started := true, attackTimer := .startedNow now }
  started.pushEvent (.start game.attackerId game.defenderId game.trump)

/-- The record of a game that has been started. -/
def startRecord (game : Game) : LogRecord :=
  ⟨.info, .rules, "Game started",
    [("game_id", .text game.id), ("attacker_id", .text game.attackerId)]⟩

/-- A user is ready.  The game starts when everyone is. -/
def ready (game : Game) (userId : String) (now : Instant) : Outcome :=
  match Check.notReadyYet game userId with
  | some violation => .rejected game violation []
  | none =>
    let voted := { game with readyVotes := game.readyVotes.insert userId }.pushEvent (.ready userId)
    if voted.everyoneReady && !voted.started then .accepted (voted.start now) [voted.startRecord]
    else .accepted voted []

/-! ## Attacking -/

/-- What is wrong with an attack, if anything is. -/
def attackViolation? (game : Game) (userId : String) (card : Card) (now : Instant) :
    Option Violation :=
  firstViolation [
    Check.gameStarted game,
    Check.isAttacker game userId,
    Check.userHasCard game userId card,
    Check.attackTimeLeft game now,
    Check.defenderHasCards game,
    Check.tableNotFull game,
    Check.rankMayJoin game card.rank]

/-- The game after a card has been laid on the table.  The defender has the whole time to cover
it, and votes to end the attack count no more. -/
def layAttack (game : Game) (userId : String) (card : Card) (now : Instant) : Game :=
  let laid := { game with
    table := game.table ++ [TableEntry.mk card none]
    endVotes := .none
    defendTimer := .startedNow now }
  laid.pushEvent (.attack card userId)

/-- A user attacks with a card. -/
def attack (game : Game) (userId : String) (card : Card) (now : Instant) : Outcome :=
  match game.attackViolation? userId card now with
  | some .attackTimeOver =>
    let resolved := game.resolveRound true
    .rejected resolved .attackTimeOver [
      game.userRecord .warn userId [] "Attack timer expired, closing round",
      resolved.roundRecord true]
  | some violation => .rejected game violation []
  | none =>
    match game.removeCard userId card with
    | some without => .accepted (without.layAttack userId card now) []
    | none =>
      .rejected game .serverError [
        game.userRecord .error userId [("card", .text card.token)]
          "Attack card vanished after validation"]

/-! ## Defending -/

/-- What is wrong with a defence, if anything is. -/
def defendViolation? (game : Game) (userId : String) (target card : Card) (now : Instant) :
    Option Violation :=
  firstViolation [
    Check.gameStarted game,
    Check.defendTimeLeft game now,
    Check.isDefender game userId,
    Check.userHasCard game userId card,
    Check.targetOnTable game target,
    Check.cardBeatsTarget game card target]

/-- Lays a card over the first open card on the table that is the target. -/
def cover (game : Game) (target card : Card) : Game :=
  { game with
    table := updateFirst (Check.isOpenTarget target) (fun entry => { entry with cover := some card })
      game.table }

/-- Whether the attacker may be waited for: every card is beaten and there is room for more. -/
def awaitsAttack (game : Game) : Bool :=
  game.table.all TableEntry.isBeaten && game.table.length < tableLimit

/-- The game after a card has been covered.  The attacker gets the whole time again to add
cards. -/
def layCover (game : Game) (userId : String) (target card : Card) (now : Instant) : Game :=
  let covered := (game.cover target card).pushEvent (.defend target card userId)
  if covered.awaitsAttack then { covered with attackTimer := .startedNow now } else covered

/-- A user covers a card on the table. -/
def defend (game : Game) (userId : String) (target card : Card) (now : Instant) : Outcome :=
  match game.defendViolation? userId target card now with
  | some .defendTimeOver =>
    .rejected (game.pushEvent .endAttack) .defendTimeOver [
      game.userRecord .warn userId [] "Defend timer expired"]
  | some violation => .rejected game violation []
  | none =>
    if game.table.any (Check.isOpenTarget target) then
      match game.removeCard userId card with
      | some without => .accepted (without.layCover userId target card now) []
      | none =>
        .rejected game .serverError [
          game.userRecord .error userId [("user_card", .text card.token)]
            "Defend card vanished after validation"]
    else
      .rejected game .serverError [
        game.userRecord .error userId [("target_card", .text target.token)]
          "Defend target vanished after validation"]

/-! ## Ending an attack -/

/-- What is wrong with a vote to end the attack, if anything is. -/
def endAttackViolation? (game : Game) (userId : String) (now : Instant) : Option Violation :=
  firstViolation [
    Check.tableNotEmpty game,
    Check.gameStarted game,
    Check.isNotDefender game userId,
    Check.attackTimeLeft game now,
    Check.allCardsBeaten game]

/-- Whether every player but the defender has voted to end the attack. -/
def everyoneEnds (game : Game) : Bool :=
  (game.players.filter fun player => player.id != game.defenderId).all fun player =>
    game.endVotes.contains player.id

/-- The record of a game that is over. -/
def overRecord (game : Game) (result : GameResult) : LogRecord :=
  ⟨.info, .rules, "Game over", [("game_id", .text game.id), ("result", .text result.title)]⟩

/-- Closes a round that everyone wants to end, which may end the game. -/
def endRound (game : Game) : Outcome :=
  let resolved := game.resolveRound true
  match resolved.evaluateEnd? game.attackerId game.defenderId with
  | some result =>
    .accepted (resolved.pushEvent (.endGame result))
      [resolved.roundRecord true, resolved.overRecord result]
  | none => .accepted resolved [resolved.roundRecord true]

/-- A user wants the attack to end.  The round closes when everyone but the defender does. -/
def endAttack (game : Game) (userId : String) (now : Instant) : Outcome :=
  match game.endAttackViolation? userId now with
  | some violation => .rejected game violation []
  | none =>
    let voted := { game with endVotes := game.endVotes.insert userId }
    if voted.everyoneEnds then voted.endRound
    else .accepted voted [voted.userRecord .debug userId [] "End attack vote recorded"]

/-! ## Taking the cards -/

/-- What is wrong with taking the cards, if anything is. -/
def takeViolation? (game : Game) (userId : String) : Option Violation :=
  firstViolation [Check.gameStarted game, Check.isDefender game userId]

/-- The game after a player has taken up every card on the table. -/
def takeTable (game : Game) (userId : String) : Game :=
  let taken := game.updatePlayer userId fun player =>
    { player with hand := player.hand ++ tableCards game.table }
  { taken with table := [] }.pushEvent (.takeAllCards userId)

/-- The game with the attack moved past a player: the next seat attacks the one after it. -/
def passOver (game : Game) (userId : String) : Game :=
  match game.nextSeat? userId with
  | some attackerId =>
    match game.nextSeat? attackerId with
    | some defenderId => { game with attackerId, defenderId }
    | none => game
  | none => game

/-- A user takes up the cards on the table and sits out the next attack. -/
def takeAllCards (game : Game) (userId : String) : Outcome :=
  match game.takeViolation? userId with
  | some violation => .rejected game violation []
  | none =>
    match game.player? userId with
    | some _ =>
      let resolved := (game.takeTable userId).resolveRound false
      .accepted (resolved.passOver userId) [resolved.roundRecord false]
    | none =>
      .rejected game .serverError [game.userRecord .error userId [] "Defender missing from seats"]

/-! ## Checking the timers -/

/-- One of the two timers. -/
def timer (game : Game) : TimerKind → Timer
  | .attack => game.attackTimer
  | .defend => game.defendTimer

/-- Whether one of the two timers has run out. -/
def timerExpired (game : Game) (kind : TimerKind) (now : Instant) : Bool :=
  (game.timer kind).expired game.settings.turnTimeoutSeconds now

/-- The game with the state of a timer announced. -/
def announceTimer (game : Game) (kind : TimerKind) : Game :=
  let timer := game.timer kind
  game.pushEvent <|
    .timerState kind (!timer.running) (timer.endsAt? game.settings.turnTimeoutSeconds)

/-- The record of a timer that was found to have run out. -/
def expiryRecord (game : Game) (kind : TimerKind) : LogRecord :=
  ⟨.warn, .rules, "Timer expired, closing round",
    [("game_id", .text game.id), ("timer", .text kind.title)]⟩

/-- A user asks how a timer stands.  If it has run out the round closes. -/
def checkTimer (game : Game) (kind : TimerKind) (now : Instant) : Outcome :=
  match Check.gameStarted game with
  | some violation => .rejected game violation []
  | none =>
    if game.timerExpired kind now then
      let resolved := game.resolveRound true
      .accepted (resolved.announceTimer kind) [game.expiryRecord kind, resolved.roundRecord true]
    else .accepted (game.announceTimer kind) []

/-! ## Any action -/

/-- Carries out an action. -/
def act (game : Game) (userId : String) (action : Action) (now : Instant) : Outcome :=
  match action with
  | .ready => game.ready userId now
  | .attack card => game.attack userId card now
  | .defend target card => game.defend userId target card now
  | .endAttack => game.endAttack userId now
  | .takeAllCards => game.takeAllCards userId
  | .checkAttackTimer => game.checkTimer .attack now
  | .checkDefendTimer => game.checkTimer .defend now
  | .unregistered _ => .rejected game .unregisteredAction []

/-- The record of an action that is about to be carried out. -/
def actionRecord (game : Game) (userId : String) (action : Action) : LogRecord :=
  game.userRecord .debug userId
    [("role", .text (game.roleOf userId).title), ("action", .text action.name)] "Applying action"

/-- Applies an action of a user to the game. -/
def apply (game : Game) (userId : String) (action : Action) (now : Instant) : Outcome :=
  let outcome := game.act userId action now
  { outcome with log := game.actionRecord userId action :: outcome.log }

end Game

end Durak
