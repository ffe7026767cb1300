/-!
Functions that are kept although nothing seems to call them, because a later stage may make up calls
to them. Some are kept together.
-/

namespace BuiltinLink

/-- Functions that are kept together. -/
structure KeepGroup where
  name : String
  members : List String
deriving DecidableEq, Repr

def KeepGroup.contains (g : KeepGroup) (function : String) : Bool :=
  g.members.contains function

/-- The groups and the single functions that are kept. -/
structure KeepCatalog where
  groups : List KeepGroup
  functions : List String
deriving DecidableEq, Repr

namespace KeepCatalog

def contains (c : KeepCatalog) (function : String) : Bool :=
  c.functions.contains function || c.groups.any fun g => g.contains function

def group? (c : KeepCatalog) (name : String) : Option KeepGroup :=
  c.groups.find? fun g => g.name = name

/-- The names of the groups that a function belongs to. -/
def groupsOf (c : KeepCatalog) (function : String) : List String :=
  (c.groups.filter fun g => g.contains function).map KeepGroup.name

/-- Loads under a mask. -/
def maskedLoad : KeepGroup :=
  ⟨"masked_load",
    ["__masked_load_i8", "__masked_load_i16", "__masked_load_i32", "__masked_load_i64",
      "__masked_load_half", "__masked_load_float", "__masked_load_double"]⟩

/-- Stores under a mask. -/
def maskedStore : KeepGroup :=
  ⟨"masked_store",
    ["__masked_store_i8", "__masked_store_i16", "__masked_store_i32", "__masked_store_i64",
      "__masked_store_half", "__masked_store_float", "__masked_store_double"]⟩

/-- Stores that blend with what is there. -/
def maskedStoreBlend : KeepGroup :=
  ⟨"masked_store_blend",
    ["__masked_store_blend_i8", "__masked_store_blend_i16", "__masked_store_blend_i32",
      "__masked_store_blend_i64", "__masked_store_blend_half", "__masked_store_blend_float",
      "__masked_store_blend_double"]⟩

/-- Loads from scattered addresses. -/
def gather : KeepGroup :=
  ⟨"gather",
    ["__gather32_i8", "__gather32_i16", "__gather32_i32", "__gather32_i64", "__gather32_float",
      "__gather32_double", "__gather64_i8", "__gather64_i16", "__gather64_i32", "__gather64_i64",
      "__gather64_float", "__gather64_double"]⟩

/-- Stores to scattered addresses. -/
def scatter : KeepGroup :=
  ⟨"scatter",
    ["__scatter32_i8", "__scatter32_i16", "__scatter32_i32", "__scatter32_i64", "__scatter32_float",
      "__scatter32_double", "__scatter64_i8", "__scatter64_i16", "__scatter64_i32",
      "__scatter64_i64", "__scatter64_float", "__scatter64_double"]⟩

/-- Prefetches. -/
def prefetch : KeepGroup :=
  ⟨"prefetch",
    ["__prefetch_read_uniform_1", "__prefetch_read_uniform_2", "__prefetch_read_uniform_3",
      "__prefetch_read_uniform_nt", "__prefetch_read_varying_1", "__prefetch_read_varying_2",
      "__prefetch_read_varying_3", "__prefetch_read_varying_nt"]⟩

/-- The catalog of the shipped libraries; the single functions are entry points of the runtime for
printing and for tasks. -/
def builtin : KeepCatalog :=
  ⟨[maskedLoad, maskedStore, maskedStoreBlend, gather, scatter, prefetch],
    ["__do_print", "__num_cores", "ISPCAlloc", "ISPCLaunch", "ISPCSync"]⟩

end KeepCatalog

end BuiltinLink
