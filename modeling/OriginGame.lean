import OriginGame.Runs
import OriginGame.LuaTable
import OriginGame.LuaNumber
import OriginGame.Gains
import OriginGame.RoleType
import OriginGame.BattleObject
import OriginGame.BattleLosses
import OriginGame.BattleFrames
import OriginGame.TroopConservation
import OriginGame.BattleHeal
import OriginGame.RallySums
import OriginGame.RallyReinforce
import OriginGame.Handlers
import OriginGame.ItemLogic
import OriginGame.ItemBag
import OriginGame.ItemPackages
import OriginGame.BatchOpening
import OriginGame.SceneMgr
import OriginGame.Aoi
import OriginGame.AoiCounts
import OriginGame.AoiVisibility
import OriginGame.AoiExact
import OriginGame.RoleStore
import OriginGame.RoleStoreDb
import OriginGame.RoleStoreRefinement
import OriginGame.Queue
import OriginGame.RallyMgr
import OriginGame.RallyLaunch
import OriginGame.RallyCapacity
import OriginGame.RallyDeparture
import OriginGame.RallyWaitTime
import OriginGame.RallyJoin
import OriginGame.RallyTargetMgr
import OriginGame.RankMgr
import OriginGame.RankBoards
import OriginGame.BattleBuff
import OriginGame.BuffAttr
import OriginGame.BuffCoexist
import OriginGame.DenseFog
import OriginGame.EntityImpl
import OriginGame.FogBits
import OriginGame.FogExplore
import OriginGame.FogMirror
import OriginGame.RoleCacle
import OriginGame.RoleAttrs
import OriginGame.GuildTerritoryMgr
import OriginGame.Reach
import OriginGame.CityReinforceMgr
import OriginGame.Hospital
import OriginGame.HospitalAdmission
import OriginGame.AStarMgr
import OriginGame.TerritorySets
import OriginGame.TerritoryMgr
import OriginGame.TerritoryClaims
import OriginGame.TerritoryOwners
import OriginGame.TerritoryLinks
import OriginGame.TerritoryRestart
import OriginGame.RestartOwners
import OriginGame.MultiSnax
import OriginGame.PkIdMgr
import OriginGame.RedisLock
import OriginGame.RoleBalances
import OriginGame.BattleScene
import OriginGame.AttackTargets
import OriginGame.BattleReports
import OriginGame.BattleMerge
import OriginGame.MergeTurns
import OriginGame.MergeScenes
import OriginGame.WorkStack
import OriginGame.BattleSkill
import OriginGame.SkillUses
import OriginGame.SkillReturns
import OriginGame.BattleCallback
import OriginGame.LossesSettled
import OriginGame.NestedTable
import OriginGame.ResourceMgr
import OriginGame.ResourceIndexes
import OriginGame.LuaArray
import OriginGame.AttackAroundPosMgr
import OriginGame.AroundSlots
import OriginGame.GameGate
import OriginGame.GateSessions
import OriginGame.AgentPush
import OriginGame.RoleTimerLogic
import OriginGame.RoleTimers
import OriginGame.TimerTables
import OriginGame.RepeatingTimers
import OriginGame.RoleAdds
import OriginGame.RoleDeletes
import OriginGame.RoleLogins
import OriginGame.ResourceCollect
import OriginGame.CollectSessions
import OriginGame.AgentLogin
import OriginGame.SessionTables
import OriginGame.BuildingLogic
import OriginGame.RoleBuildQueueMgr
import OriginGame.BuildQueues
import OriginGame.CommonEntities
import OriginGame.Constructions
import OriginGame.BuildLifecycle
import OriginGame.EarlyWarnings
import OriginGame.TransportRefunds
import OriginGame.CityProduction
import OriginGame.PlunderBounds
import OriginGame.PlunderShares
import OriginGame.TerritoryOrder
import OriginGame.TerritoryVertices
import OriginGame.TerritoryBorder
import OriginGame.Polyline
import OriginGame.BorderLoops
import OriginGame.TerritoryWalk
import OriginGame.TerritoryLines
import OriginGame.TerritoryOutlines
import OriginGame.TerritorySelection
import OriginGame.TerritoryOffers
import OriginGame.RallySplit
import OriginGame.SoldierHurts
import OriginGame.SoldierPercent
import OriginGame.BattleLedgers
import OriginGame.Slots
import OriginGame.BuffRemoval
import OriginGame.ShieldAbsorption
import OriginGame.RemovedPlaces
import OriginGame.BuffsRemoved
import OriginGame.BattleAnger
import OriginGame.Draws
import OriginGame.SkillTargets
import OriginGame.SkillSector
import OriginGame.TargetSelection
import OriginGame.Calendar
import OriginGame.Timer
import OriginGame.DiffDays
import OriginGame.DiffWeeks
import OriginGame.FogCells
import OriginGame.FogBlocks
import OriginGame.FogIndex
import OriginGame.FogView
import OriginGame.FogSquare
import OriginGame.Gathering
import OriginGame.GatherFinish
import OriginGame.GatherTimes
import OriginGame.LuaRows
import OriginGame.AroundSqueeze
import OriginGame.RewardTables
import OriginGame.RewardMerge
import OriginGame.Random
import OriginGame.Decimal
import OriginGame.Links
import OriginGame.AoiMap
import OriginGame.AoiMapChains
import OriginGame.AoiMapInsert
import OriginGame.AoiMapExact
import OriginGame.AoiHeap
import OriginGame.AoiRefs
import OriginGame.AoiKeys
import OriginGame.AoiSlots
import OriginGame.AoiRefinement
import OriginGame.SkynetTimer
import OriginGame.SkynetTimerWheel
import OriginGame.SkynetTimerRuns
import OriginGame.Ring
import OriginGame.SkynetMq
import OriginGame.SkynetHandle
import OriginGame.Bisect
import OriginGame.SkynetNames
import OriginGame.SkynetServer
import OriginGame.SkynetService
import OriginGame.SkynetSteps
import OriginGame.SkynetFrames
import OriginGame.SkynetAdvance
import OriginGame.SkynetServerRuns
