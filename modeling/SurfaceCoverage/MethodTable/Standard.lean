import SurfaceCoverage.MethodTable

/-!
# The standard method tables

Tables for blocks, items, entities and their goals, for a run whose settings name no file with
tables.  A method without a name of its own in the target is a known gap.
-/

namespace SurfaceCoverage

namespace MethodTables

/-- The tracked methods of blocks. -/
def blockEntries : List (String × Option String) :=
  [("getStateForNeighborUpdate", some "update_shape"),
    ("getPlacementState", some "get_state_for_placement"), ("onBlockAdded", some "on_place"),
    ("onUseWithItem", some "use_item_on"), ("onUse", some "use_without_item"),
    ("neighborUpdate", some "handle_neighbor_changed"), ("randomTick", some "random_tick"),
    ("getPickStack", some "get_clone_item_stack"),
    ("hasRandomTicks", some "is_randomly_ticking"),
    ("createBlockEntity", some "new_block_entity"),
    ("hasComparatorOutput", some "has_analog_output_signal"),
    ("getComparatorOutput", some "get_analog_output_signal"),
    ("getFluidState", some "get_fluid_state"), ("onStateReplaced", none),
    ("onBlockBreakStart", none), ("onBroken", none), ("onDestroyedByExplosion", none),
    ("onEntityCollision", none), ("onProjectileHit", none), ("onSteppedOn", none),
    ("onLandedUpon", none), ("scheduledTick", none), ("getOutlineShape", none),
    ("getCollisionShape", none), ("getRaycastShape", none), ("canPlaceAt", none),
    ("canReplace", none), ("rotate", none), ("mirror", none)]

/-- The tracked methods of items. -/
def itemEntries : List (String × Option String) :=
  [("useOnBlock", some "use_on"), ("use", none), ("usageTick", none), ("finishUsing", none),
    ("postHit", none), ("postMine", none), ("postDamageEntity", none), ("useOnEntity", none),
    ("inventoryTick", none), ("onStoppedUsing", none), ("getMaxUseTime", none),
    ("getMiningSpeed", none), ("onCraft", none), ("onCraftByPlayer", none)]

/-- The tracked methods of entities. -/
def entityEntries : List (String × Option String) :=
  [("tick", some "tick"), ("writeCustomDataToNbt", some "save_additional"),
    ("readCustomDataFromNbt", some "load_additional"), ("damage", none), ("onDeath", none),
    ("onKilledOther", none), ("interact", none), ("interactAt", none), ("onSpawnPacket", none),
    ("onStruckByLightning", none), ("pushAwayFrom", none), ("travel", none),
    ("tickMovement", none), ("mobTick", none), ("getActiveEyeHeight", none)]

/-- The tracked methods of goals of entities. -/
def goalEntries : List (String × Option String) :=
  [("canStart", none), ("shouldContinue", none), ("start", none), ("stop", none),
    ("tick", none), ("canStop", none), ("shouldRunEveryTick", none)]

/-- The table with the given entries. -/
def standardTable (name : String) (entries : List (String × Option String)) : MethodTable :=
  ⟨name, OrderedMap.ofList (entries.map fun e =>
    (e.1, match e.2 with
      | some target => .mapped target
      | none => .knownGap))⟩

/-- The standard tables by name. -/
def standard : TablesByName :=
  OrderedMap.ofList
    ([("block", blockEntries), ("item", itemEntries), ("entity", entityEntries),
      ("goal", goalEntries)].map fun t => (t.1, standardTable t.1 t.2))

end MethodTables

end SurfaceCoverage
