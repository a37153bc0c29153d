import ShaderKit.Ir.Module

/-!
# Words with a meaning

The words of the language, by what they stand for.
-/

namespace ShaderKit.Wgsl.Words

open Ir (AddressSpace BuiltIn ImageDimension Interpolation Sampling Scalar StorageAccess
  StorageFormat VectorSize)

/-- Scalar types by name. -/
def scalars : List (String × Scalar) :=
  [("bool", .bool), ("i32", .i32), ("u32", .u32), ("f32", .f32), ("i64", .i64), ("u64", .u64),
   ("f64", .f64)]

/-- Vector sizes by digit. -/
def sizes : List (String × VectorSize) := [("2", .two), ("3", .three), ("4", .four)]

/-- The letters that name the component type of a vector. -/
def letters : List (String × Scalar) := [("i", .i32), ("u", .u32), ("f", .f32)]

/-- Vectors by name. -/
def vectors : List (String × VectorSize) := sizes.map fun (n, size) => ("vec" ++ n, size)

/-- Vector types with a component type. -/
def vectorTypes : List (String × (VectorSize × Scalar)) :=
  vectors.flatMap fun (word, size) => letters.map fun (letter, s) => (word ++ letter, (size, s))

/-- Columns and rows of matrices by name. -/
def matrices : List (String × (VectorSize × VectorSize)) :=
  sizes.flatMap fun (c, columns) => sizes.map fun (r, rows) =>
    ("mat" ++ c ++ "x" ++ r, (columns, rows))

/-- Matrix types with a component type, which is `f32`. -/
def matrixTypes : List (String × (VectorSize × VectorSize)) :=
  matrices.map fun (word, sizes) => (word ++ "f", sizes)

/-- What is still to be said about an image type. -/
inductive ImageKind
  | sampled (multisampled : Bool)
  | depth (multisampled : Bool)
  | storage
  deriving DecidableEq

/-- What the name of an image type says. -/
structure ImageWord where
  dim : ImageDimension
  arrayed : Bool
  kind : ImageKind

/-- Image types by name. -/
def images : List (String × ImageWord) :=
  [("texture_1d", ⟨.d1, false, .sampled false⟩), ("texture_1d_array", ⟨.d1, true, .sampled false⟩),
   ("texture_2d", ⟨.d2, false, .sampled false⟩), ("texture_2d_array", ⟨.d2, true, .sampled false⟩),
   ("texture_3d", ⟨.d3, false, .sampled false⟩), ("texture_cube", ⟨.cube, false, .sampled false⟩),
   ("texture_cube_array", ⟨.cube, true, .sampled false⟩),
   ("texture_multisampled_2d", ⟨.d2, false, .sampled true⟩),
   ("texture_multisampled_2d_array", ⟨.d2, true, .sampled true⟩),
   ("texture_depth_2d", ⟨.d2, false, .depth false⟩),
   ("texture_depth_2d_array", ⟨.d2, true, .depth false⟩),
   ("texture_depth_cube", ⟨.cube, false, .depth false⟩),
   ("texture_depth_cube_array", ⟨.cube, true, .depth false⟩),
   ("texture_depth_multisampled_2d", ⟨.d2, false, .depth true⟩),
   ("texture_storage_1d", ⟨.d1, false, .storage⟩),
   ("texture_storage_1d_array", ⟨.d1, true, .storage⟩),
   ("texture_storage_2d", ⟨.d2, false, .storage⟩),
   ("texture_storage_2d_array", ⟨.d2, true, .storage⟩),
   ("texture_storage_3d", ⟨.d3, false, .storage⟩)]

/-- Sampler types by name, with whether they compare. -/
def samplers : List (String × Bool) := [("sampler", false), ("sampler_comparison", true)]

/-- What may be done with storage, by name. -/
def accesses : List (String × StorageAccess) :=
  [("read", .readOnly), ("write", .writeOnly), ("read_write", .readWrite),
   ("atomic", ⟨true, true, true⟩)]

/-- Address spaces by name. -/
def spaces : List (String × AddressSpace) :=
  [("private", .private_), ("workgroup", .workgroup), ("uniform", .uniform),
   ("storage", .storage .readOnly), ("push_constant", .pushConstant), ("function", .function)]

/-- Builtins by name. -/
def builtIns : List (String × BuiltIn) :=
  [("position", .position false), ("vertex_index", .vertexIndex),
   ("instance_index", .instanceIndex), ("view_index", .viewIndex),
   ("clip_distances", .clipDistance), ("front_facing", .frontFacing),
   ("frag_depth", .fragDepth), ("primitive_index", .primitiveIndex),
   ("sample_index", .sampleIndex), ("sample_mask", .sampleMask),
   ("global_invocation_id", .globalInvocationId), ("local_invocation_id", .localInvocationId),
   ("local_invocation_index", .localInvocationIndex), ("workgroup_id", .workGroupId),
   ("num_workgroups", .numWorkGroups), ("num_subgroups", .numSubgroups),
   ("subgroup_id", .subgroupId), ("subgroup_size", .subgroupSize),
   ("subgroup_invocation_id", .subgroupInvocationId)]

/-- Ways to interpolate by name. -/
def interpolations : List (String × Interpolation) :=
  [("linear", .linear), ("flat", .flat), ("perspective", .perspective)]

/-- Places to sample at by name. -/
def samplings : List (String × Sampling) :=
  [("center", .center), ("centroid", .centroid), ("sample", .sample), ("first", .first),
   ("either", .either)]

/-- Formats of storage images by name. -/
def formats : List (String × StorageFormat) :=
  [("r8unorm", .r8Unorm), ("r8snorm", .r8Snorm), ("r8uint", .r8Uint), ("r8sint", .r8Sint),
   ("r16unorm", .r16Unorm), ("r16snorm", .r16Snorm), ("r16uint", .r16Uint),
   ("r16sint", .r16Sint), ("r16float", .r16Float), ("rg8unorm", .rg8Unorm),
   ("rg8snorm", .rg8Snorm), ("rg8uint", .rg8Uint), ("rg8sint", .rg8Sint), ("r32uint", .r32Uint),
   ("r32sint", .r32Sint), ("r32float", .r32Float), ("rg16unorm", .rg16Unorm),
   ("rg16snorm", .rg16Snorm), ("rg16uint", .rg16Uint), ("rg16sint", .rg16Sint),
   ("rg16float", .rg16Float), ("rgba8unorm", .rgba8Unorm), ("rgba8snorm", .rgba8Snorm),
   ("rgba8uint", .rgba8Uint), ("rgba8sint", .rgba8Sint), ("rgb10a2uint", .rgb10a2Uint),
   ("rgb10a2unorm", .rgb10a2Unorm), ("rg11b10float", .rg11b10Ufloat), ("rg32uint", .rg32Uint),
   ("rg32sint", .rg32Sint), ("rg32float", .rg32Float), ("rgba16unorm", .rgba16Unorm),
   ("rgba16snorm", .rgba16Snorm), ("rgba16uint", .rgba16Uint), ("rgba16sint", .rgba16Sint),
   ("rgba16float", .rgba16Float), ("rgba32uint", .rgba32Uint), ("rgba32sint", .rgba32Sint),
   ("rgba32float", .rgba32Float), ("bgra8unorm", .bgra8Unorm), ("r64uint", .r64Uint)]

/-- Names of types that nothing else can have. -/
def typeNames : List String :=
  ["array", "atomic", "bool", "f32", "f16", "i32", "mat2x2", "mat2x3", "mat2x4", "mat3x2",
   "mat3x3", "mat3x4", "mat4x2", "mat4x3", "mat4x4", "ptr", "sampler", "sampler_comparison",
   "texture_1d", "texture_2d", "texture_2d_array", "texture_3d", "texture_cube",
   "texture_cube_array", "texture_multisampled_2d", "texture_storage_1d", "texture_storage_2d",
   "texture_storage_2d_array", "texture_storage_3d", "texture_depth_2d", "texture_depth_2d_array",
   "texture_depth_cube", "texture_depth_cube_array", "texture_depth_multisampled_2d", "u32",
   "vec2", "vec3", "vec4"]

/-- Words of the grammar. -/
def keywords : List String :=
  ["bitcast", "break", "case", "const", "continue", "continuing", "default", "discard", "else",
   "enable", "false", "fallthrough", "fn", "for", "function", "if", "let", "loop", "override",
   "private", "return", "static_assert", "storage", "struct", "switch", "true", "type", "uniform",
   "var", "while", "workgroup"]

/-- Words that are kept free for later. -/
def kept : List String :=
  ["CompileShader", "ComputeShader", "DomainShader", "GeometryShader", "Hullshader", "NULL",
   "Self", "abstract", "active", "alignas", "alignof", "as", "asm", "asm_fragment", "async",
   "attribute", "auto", "await", "become", "bf16", "binding_array", "cast", "catch", "class",
   "co_await", "co_return", "co_yield", "coherent", "column_major", "common", "compile",
   "compile_fragment", "concept", "const_cast", "consteval", "constexpr", "constinit", "crate",
   "debugger", "decltype", "delete", "demote", "demote_to_helper", "do", "dynamic_cast", "enum",
   "explicit", "export", "extends", "extern", "external", "filter", "final", "finally", "friend",
   "from", "fxgroup", "get", "goto", "groupshared", "handle", "highp", "impl", "implements",
   "import", "inline", "inout", "instanceof", "interface", "invariant", "layout", "line",
   "lineadj", "lowp", "macro", "macro_rules", "match", "mediump", "meta", "mod", "module", "move",
   "mut", "mutable", "namespace", "new", "nil", "noexcept", "noinline", "nointerpolation",
   "noperspective", "null", "nullptr", "of", "operator", "package", "packoffset", "partition",
   "pass", "patch", "pixelfragment", "point", "precise", "precision", "premerge", "priv",
   "protected", "pub", "public", "readonly", "ref", "regardless", "register", "reinterpret_cast",
   "requires", "resource", "restrict", "self", "set", "shared", "signed", "sizeof", "smooth",
   "snorm", "static", "static_cast", "std", "subroutine", "super", "target", "template", "this",
   "thread_local", "throw", "trait", "try", "typedef", "typeid", "typename", "typeof", "union",
   "unless", "unorm", "unsafe", "unsized", "use", "using", "varying", "virtual", "volatile",
   "wgsl", "where", "with", "writeonly", "yield"]

/-- Words that name nothing. -/
def reserved : List String := typeNames ++ keywords ++ kept

end ShaderKit.Wgsl.Words
