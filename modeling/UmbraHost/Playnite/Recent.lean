import Mathlib.Data.List.Sort
import Mathlib.Data.String.Basic
import UmbraHost.Playnite.Games
import UmbraHost.Util.SortedPrefix

/-! # Recently played games

`select_recent_installed_games` takes the first games of a list that is sorted by the text of
their dates, and leaves out those whose dates are too old when read as instants. -/

namespace UmbraHost.Playnite.Recent

open UmbraHost.Json
open UmbraHost.SortedPrefix

/-! ## The selection -/

/-- What `select_recent_installed_games` is asked for, and the time at which it is. -/
structure Request where
  recentN : Int
  recentAgeDays : Int
  exclusions : Exclusions
  now : Int

/-- A `std::sort` by falling text of the date. -/
structure DateSort where
  sort : List Game → List Game
  perm : ∀ games, (sort games).Perm games
  falling : ∀ games, Falling Game.lastPlayed (sort games)

section

variable (mkgmtime : DateTime → Option Int) (request : Request)

def Request.cutoff : Int := request.now - max 0 request.recentAgeDays * 86400

def playedAt (game : Game) : Option Int := parseIso8601Utc mkgmtime game.lastPlayed

/-- The game is among those that the loop appends. -/
def Request.keeps (game : Game) : Bool :=
  if request.exclusions.excludes game then false
  else if 0 < request.recentAgeDays then
    match playedAt mkgmtime game with
    | none => false
    | some played => !decide (played < request.cutoff)
  else true

/-- The loop of `select_recent_installed_games` from the output built so far. -/
def recentLoop (out : List Game) (flags : Fields Nat) : List Game → List Game × Fields Nat
  | [] => (out, flags)
  | game :: rest =>
    if request.recentN ≤ out.length then (out, flags)
    else if request.keeps mkgmtime game then
      recentLoop (out ++ [game]) (addFlag kSourceRecent flags game) rest
    else recentLoop out flags rest

def selectRecentGames (sorter : DateSort) (installed : List Game) (flags : Fields Nat) :
    List Game × Fields Nat :=
  recentLoop mkgmtime request [] flags (sorter.sort installed)

end

/-! ## What it returns -/

variable {mkgmtime : DateTime → Option Int} {request : Request} {game : Game}

theorem recentLoop_eq (out : List Game) (flags : Fields Nat) (games : List Game) :
    recentLoop mkgmtime request out flags games =
      let taken := (games.filter (request.keeps mkgmtime)).take (request.recentN.toNat - out.length)
      (out ++ taken, taken.foldl (addFlag kSourceRecent) flags) := by
  induction games generalizing out flags with
  | nil => simp [recentLoop]
  | cons game rest ih =>
      rw [recentLoop]
      split
      next full =>
        have none : request.recentN.toNat - out.length = 0 := by omega
        simp [none]
      next room =>
        split
        next keeps =>
          have one : request.recentN.toNat - out.length =
              request.recentN.toNat - (out ++ [game]).length + 1 := by
            rw [List.length_append, List.length_singleton]
            omega
          rw [ih, List.filter_cons_of_pos keeps, one]
          simp
        next skipped => rw [ih, List.filter_cons_of_neg skipped]

theorem selectRecentGames_eq (sorter : DateSort) (installed : List Game) (flags : Fields Nat) :
    selectRecentGames mkgmtime request sorter installed flags =
      let taken := ((sorter.sort installed).filter (request.keeps mkgmtime)).take
        request.recentN.toNat
      (taken, taken.foldl (addFlag kSourceRecent) flags) := by
  rw [selectRecentGames, recentLoop_eq]
  simp

theorem keeps_iff : request.keeps mkgmtime game = true ↔
    request.exclusions.excludes game = false ∧ (0 < request.recentAgeDays →
      ∃ played, playedAt mkgmtime game = some played ∧ request.cutoff ≤ played) := by
  unfold Request.keeps
  split
  next excluded => simp [excluded]
  next included =>
    rw [Bool.not_eq_true] at included
    split
    next limited =>
      cases read : playedAt mkgmtime game <;> simp [included, limited]
    next unlimited => simp [included, unlimited]

/-- The recent games of a synchronization are selected so. -/
theorem selectRecentInstalledGames_eq (env : Environment) (config : Config)
    (installed : List Game) (sorter : DateSort) (same : env.sortRecent = sorter.sort)
    (flags : Fields Nat) :
    selectRecentInstalledGames env config installed =
      (selectRecentGames env.mkgmtime
        ⟨config.recentN, config.recentAgeDays, config.exclusions, env.selectTime⟩
        sorter installed flags).1 := by
  rw [selectRecentGames_eq, selectRecentInstalledGames, selectGames, same]
  congr 2
  funext game
  rw [Bool.eq_iff_iff, keeps_iff]
  by_cases limited : config.recentAgeDays ≤ 0
  · simp [playedSince, limited, Int.not_lt.mpr limited]
  · have days : 0 < config.recentAgeDays := Int.not_le.mp limited
    cases read : parseIso8601Utc env.mkgmtime game.lastPlayed <;>
      simp [playedSince, limited, days, playedAt, read, Request.cutoff]

/-! ## The most recently played -/

/-- The one game was played after the other. -/
def PlayedAfter (mkgmtime : DateTime → Option Int) (later game : Game) : Prop :=
  ∃ instant ∈ playedAt mkgmtime later, ∃ played ∈ playedAt mkgmtime game, played < instant

/-- The games are as many as asked for, none of them is excluded or too old, and of the
other games that might have been chosen none was played later than one of them. -/
structure MostRecent (mkgmtime : DateTime → Option Int) (request : Request)
    (installed out : List Game) : Prop where
  bounded : out.length ≤ request.recentN.toNat
  eligible : ∀ game ∈ out, game ∈ installed ∧ request.exclusions.excludes game = false ∧
    (0 < request.recentAgeDays →
      ∃ played, playedAt mkgmtime game = some played ∧ request.cutoff ≤ played)
  latest : ∀ left, (out ++ left).Perm (installed.filter (request.keeps mkgmtime)) →
    ∀ other ∈ left, ∀ game ∈ out, ¬PlayedAfter mkgmtime other game

/-- Of two eligible games played one after the other, either `recentN` games have a text
above that of the earlier one, or no more than `recentN` a text from that of the later one
on: the texts may be in the wrong order as long as the cut is not between them. -/
def SpelledInOrder (mkgmtime : DateTime → Option Int) (request : Request)
    (installed : List Game) : Prop :=
  let eligible := installed.filter (request.keeps mkgmtime)
  ∀ game ∈ eligible, ∀ other ∈ eligible, PlayedAfter mkgmtime other game →
    countAbove Game.lastPlayed game.lastPlayed eligible < request.recentN.toNat →
      countFrom Game.lastPlayed other.lastPlayed eligible ≤ request.recentN.toNat

theorem PlayedAfter.congr {earlier game later other : Game}
    (same : game.lastPlayed = earlier.lastPlayed) (equal : other.lastPlayed = later.lastPlayed)
    (after : PlayedAfter mkgmtime later earlier) : PlayedAfter mkgmtime other game := by
  simpa only [PlayedAfter, playedAt, same, equal] using after

section

variable (mkgmtime request) (sorter : DateSort) (installed : List Game)

/-- The eligible games in the order of the sorted list. -/
def ranked : List Game := (sorter.sort installed).filter (request.keeps mkgmtime)

theorem ranked_perm :
    (ranked mkgmtime request sorter installed).Perm (installed.filter (request.keeps mkgmtime)) :=
  (sorter.perm installed).filter (request.keeps mkgmtime)

theorem ranked_falling : Falling Game.lastPlayed (ranked mkgmtime request sorter installed) :=
  (sorter.falling installed).filter (request.keeps mkgmtime)

theorem spelledInOrder_iff_ranked :
    SpelledInOrder mkgmtime request installed ↔
      ∀ game ∈ (ranked mkgmtime request sorter installed).take request.recentN.toNat,
        ∀ other ∈ (ranked mkgmtime request sorter installed).drop request.recentN.toNat,
          ¬PlayedAfter mkgmtime other game := by
  have perm := ranked_perm mkgmtime request sorter installed
  rw [(ranked_falling mkgmtime request sorter installed).take_first PlayedAfter.congr]
  simp only [SpelledInOrder, countAbove, countFrom, perm.mem_iff, perm.countP_eq]

/-- Texts that are ordered as their dates are in order wherever the cut is. -/
theorem SpelledInOrder.of_agree (agree : ∀ game ∈ installed, ∀ other ∈ installed,
    PlayedAfter mkgmtime other game → game.lastPlayed < other.lastPlayed) :
    SpelledInOrder mkgmtime request installed := by
  intro game member other listed after few
  have less := agree game (List.mem_of_mem_filter member) other
    (List.mem_of_mem_filter listed) after
  refine Nat.le_trans (List.countP_mono_left fun _ _ above => ?_) few.le
  exact decide_eq_true (less.trans_le (of_decide_eq_true above))

end

theorem selectRecentGames_mostRecent (mkgmtime : DateTime → Option Int) (request : Request)
    (sorter : DateSort) (installed : List Game) (flags : Fields Nat) :
    MostRecent mkgmtime request installed
        (selectRecentGames mkgmtime request sorter installed flags).1 ↔
      SpelledInOrder mkgmtime request installed := by
  have returned : (selectRecentGames mkgmtime request sorter installed flags).1 =
      (ranked mkgmtime request sorter installed).take request.recentN.toNat := by
    rw [selectRecentGames_eq, ranked]
  have perm := ranked_perm mkgmtime request sorter installed
  rw [returned, spelledInOrder_iff_ranked mkgmtime request sorter]
  constructor
  · intro recent game taken other left
    refine recent.latest _ ?_ other left game taken
    rwa [List.take_append_drop]
  · intro ordered
    refine ⟨List.length_take_le _ _, fun game taken => ?_, fun left rest other out => ?_⟩
    · obtain ⟨member, keeps⟩ := List.mem_filter.mp (perm.subset (List.mem_of_mem_take taken))
      exact ⟨member, keeps_iff.mp keeps⟩
    · have whole := perm.trans rest.symm
      nth_rewrite 1 [← List.take_append_drop request.recentN.toNat
        (ranked mkgmtime request sorter installed)] at whole
      have dropped := (List.perm_append_left_iff _).mp whole
      exact fun game taken => ordered game taken other (dropped.mem_iff.mpr out)

/-! ## Where the text misleads -/

/-- `_mkgmtime`: fields beyond their ranges carry over, and the answer is of the years
1970 to 3000. -/
def utcMkgmtime (time : DateTime) : Option Int :=
  -- Years begin in March, so that a leap day comes last.
  let months : Int := time.year * 12 + time.month - 3
  let year := months / 12
  let month := months % 12
  let days := 365 * year + year / 4 - year / 100 + year / 400 + (153 * month + 2) / 5 +
    time.day - 719469
  let seconds := ((days * 24 + time.hour) * 60 + time.minute) * 60 + time.second
  if 0 ≤ seconds ∧ seconds ≤ 32535215999 then some seconds else none

example : utcMkgmtime ⟨1970, 1, 1, 0, 0, 0⟩ = some 0 := by decide
example : utcMkgmtime ⟨3000, 12, 31, 23, 59, 59⟩ = some 32535215999 := by decide
example : utcMkgmtime ⟨2024, 2, 30, 0, 0, 0⟩ = utcMkgmtime ⟨2024, 3, 1, 0, 0, 0⟩ := by decide

def insertionDateSort : DateSort where
  sort := List.insertionSort fun game other => other.lastPlayed ≤ game.lastPlayed
  perm games := List.perm_insertionSort _ games
  falling games :=
    have : Std.Total fun game other : Game => other.lastPlayed ≤ game.lastPlayed :=
      ⟨fun game other => le_total other.lastPlayed game.lastPlayed⟩
    have : IsTrans Game fun game other => other.lastPlayed ≤ game.lastPlayed :=
      ⟨fun _ _ _ first second => second.trans first⟩
    List.pairwise_insertionSort _ games

/-- Played before and after the clocks went back by an hour. -/
def summerGame : Game := { id := "A", lastPlayed := "2024-10-27T02:45:00.0000000+02:00" }
def winterGame : Game := { id := "B", lastPlayed := "2024-10-27T02:15:00.0000000+01:00" }

def oneRecent : Request := ⟨1, 0, ⟨[], [], []⟩, 1730000000⟩

theorem selectRecentGames_misleads :
    (∀ game ∈ [summerGame, winterGame], (playedAt utcMkgmtime game).isSome = true) ∧
      ¬MostRecent utcMkgmtime oneRecent [summerGame, winterGame]
        (selectRecentGames utcMkgmtime oneRecent insertionDateSort
          [summerGame, winterGame] []).1 := by
  have summer : playedAt utcMkgmtime summerGame = some 1729989900 := by decide +kernel
  have winter : playedAt utcMkgmtime winterGame = some 1729991700 := by decide +kernel
  have returned : (selectRecentGames utcMkgmtime oneRecent insertionDateSort
      [summerGame, winterGame] []).1 = [summerGame] := by decide +kernel
  refine ⟨by simp [summer, winter], fun recent => ?_⟩
  rw [returned] at recent
  refine recent.latest [winterGame] ?_ winterGame (by simp) summerGame (by simp)
    ⟨_, winter, _, summer, by decide⟩
  have all : [summerGame, winterGame].filter (oneRecent.keeps utcMkgmtime) =
      [summerGame, winterGame] := by decide +kernel
  rw [all]
  exact .refl _

end UmbraHost.Playnite.Recent
