import GeckScript.Feature

/-!
Groups of tokens that are highlighted alike, and the words of GECK scripts in their groups.
-/

namespace GeckScript

structure Group where
  scope : String
  tokens : List String
  ignoreCase : Bool
  /-- The feature that switches the group on; without one it always is. -/
  gate : Option Feature
  deriving Repr, DecidableEq

def Group.isEnabled (g : Group) (features : FeatureSet) : Bool :=
  g.gate.all features.has

def keywords : List String := [
  "scn", "ScriptName", "Begin", "End", "if", "elseif", "else", "endif", "set", "to", "let",
  "eval", "return", "short", "int", "long", "float", "ref", "reference", "array_var",
  "string_var", "while", "loop", "foreach", "continue", "break"]

def blockTypes : List String := [
  "GameMode", "MenuMode", "OnActivate", "OnActorEquip", "OnActorUnequip", "OnAdd", "OnClose",
  "OnCombatEnd", "OnDeath", "OnDestructionStageChange", "OnDrop", "OnEquip", "OnFire", "OnGrab",
  "OnHit", "OnHitWith", "OnLoad", "OnMagicEffectHit", "OnMurder", "OnOpen", "OnPackageChange",
  "OnPackageDone", "OnPackageEnd", "OnPackageStart", "OnRelease", "OnReset", "OnSell",
  "OnStartCombat", "OnTrigger", "OnTriggerEnter", "OnTriggerLeave", "OnUnequip", "SayToDone",
  "ScriptEffectStart", "ScriptEffectUpdate", "ScriptEffectFinish"]

def baseFunctions : List String := [
  "Activate", "AddItem", "AddScriptPackage", "AddSpell", "AddTopic", "Cast", "CompleteQuest",
  "Disable", "DisablePlayerControls", "Enable", "EnablePlayerControls", "EquipItem",
  "GetActorValue", "GetAV", "GetAngle", "GetButtonPressed", "GetContainer", "GetCurrentTime",
  "GetDead", "GetDisabled", "GetDistance", "GetGameSetting", "GetInCell", "GetIsID",
  "GetIsReference", "GetItemCount", "GetLocked", "GetObjectiveCompleted", "GetOpenState",
  "GetPos", "GetQuestRunning", "GetSecondsPassed", "GetSelf", "GetStage", "GetStageDone",
  "IsActionRef", "Kill", "Lock", "ModActorValue", "ModAV", "MoveTo", "PlaceAtMe", "PlayGroup",
  "PlaySound", "PlaySound3D", "RemoveAllItems", "RemoveItem", "RemoveSpell", "Resurrect",
  "RewardXP", "SetActorValue", "SetAV", "SetAngle", "SetObjectiveCompleted",
  "SetObjectiveDisplayed", "SetPos", "SetStage", "ShowMessage", "StartCombat",
  "StartConversation", "StartQuest", "StopCombat", "StopQuest", "Unlock"]

def foseFunctions : List String := [
  "CompareNames", "Con_SCOF", "GetBaseObject", "GetEquippedObject", "GetFOSEVersion",
  "GetFOSERevision", "GetHealth", "GetLinkedDoor", "GetNumItems", "GetInventoryObject",
  "GetParentCell", "GetType", "GetValue", "GetWeight", "IsControlPressed", "IsKeyPressed",
  "IsRefEssential", "ListAddForm", "ListGetCount", "ListGetFormIndex", "ListGetNthForm",
  "ListRemoveForm", "PrintToConsole", "SetHealth", "SetName", "SetValue", "SetWeight", "TapKey"]

def vegasFunctions : List String := [
  "AddNote", "ClearOwnership", "DisableAllMines", "EnableReputation", "GetCasinoWinningsLevel",
  "GetChallengeCompleted", "GetHardcore", "GetReputation", "GetReputationPct",
  "GetReputationThreshold", "GetVATSValue", "IsHardcore", "MarkForDelete", "ModReputation",
  "RemoveNote", "SetEnableParent", "SetReputation", "ShowChallengeNotification",
  "ShowRecipeMenu", "UnlockChallenge"]

def nvseFunctions : List String := [
  "Ar_Append", "Ar_Construct", "Ar_Find", "Ar_HasKey", "Ar_Keys", "Ar_List", "Ar_Size",
  "Ar_Sort", "DispatchEventAlt", "GetModIndex", "GetNVSEVersion", "GetNVSERevision",
  "GetEquippedCurrentHealth", "GetUIFloat", "IsModLoaded", "Print", "PrintC",
  "RemoveEventHandler", "SetEventHandler", "SetUIFloat", "SetUIString", "Sv_Construct",
  "Sv_Destruct", "Sv_Find", "Sv_Length", "ToNumber", "ToString", "TypeOf"]

def nxFunctions : List String := [
  "NX_ClrEVFl", "NX_ClrEVFo", "NX_GetConversationPartner", "NX_GetEVFl", "NX_GetEVFo",
  "NX_GetEVSt", "NX_GetQVEVFl", "NX_GetRandom", "NX_GetVersion", "NX_IsInList",
  "NX_IsUsingSkeleton", "NX_SetEVFl", "NX_SetEVFo", "NX_SetEVSt", "NX_SetConversationPartner"]

def standardCatalogue : List Group := [
  ⟨"keyword.geck-keyword", keywords, false, none⟩,
  ⟨"keyword.control.geck.blocktype", blockTypes, true, none⟩,
  ⟨"keyword.geck.baseFns", baseFunctions, false, none⟩,
  ⟨"keyword.geck.foseFns", foseFunctions, false, some .fose⟩,
  ⟨"keyword.geck.vegasFns", vegasFunctions, false, some .vegas⟩,
  ⟨"keyword.geck.nvseFns", nvseFunctions, false, some .nvse⟩,
  ⟨"keyword.geck.nxFns", nxFunctions, false, some .nx⟩]

end GeckScript
