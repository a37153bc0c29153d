/-!
# Opcodes by name

The opcodes that this library treats in a way of its own.
-/

namespace ShaderKit.Spirv.Op

/-- OpUndef: a value that may be anything. -/
def undef : Nat := 1

/-- OpSourceContinued: more source text. -/
def sourceContinued : Nat := 2

/-- OpSource: the source language. -/
def source : Nat := 3

/-- OpSourceExtension: an extension of the source language. -/
def sourceExtension : Nat := 4

/-- OpName: the name of an id. -/
def name : Nat := 5

/-- OpMemberName: the name of a member of a struct. -/
def memberName : Nat := 6

/-- OpString: a text that others refer to. -/
def string : Nat := 7

/-- OpLine: the source line of what follows. -/
def line : Nat := 8

/-- OpExtension: an extension that the module uses. -/
def extension : Nat := 10

/-- OpExtInstImport: a set of extended instructions. -/
def extInstImport : Nat := 11

/-- OpExtInst: an instruction of an imported set. -/
def extInst : Nat := 12

/-- OpMemoryModel: the addressing model and the memory model. -/
def memoryModel : Nat := 14

/-- OpEntryPoint: a function that a pipeline can start at, with its interface. -/
def entryPoint : Nat := 15

/-- OpExecutionMode: how an entry point runs. -/
def executionMode : Nat := 16

/-- OpCapability: a capability that the module needs. -/
def capability : Nat := 17

/-- OpTypeVoid: the type without values. -/
def typeVoid : Nat := 19

/-- OpTypeBool: truth values. -/
def typeBool : Nat := 20

/-- OpTypeInt: integers of a width, signed or not. -/
def typeInt : Nat := 21

/-- OpTypeFloat: floats of a width. -/
def typeFloat : Nat := 22

/-- OpTypeVector: vectors of scalars. -/
def typeVector : Nat := 23

/-- OpTypeMatrix: matrices of columns. -/
def typeMatrix : Nat := 24

/-- OpTypeImage: images. -/
def typeImage : Nat := 25

/-- OpTypeSampler: samplers. -/
def typeSampler : Nat := 26

/-- OpTypeSampledImage: images together with a sampler. -/
def typeSampledImage : Nat := 27

/-- OpTypeArray: arrays of a constant length. -/
def typeArray : Nat := 28

/-- OpTypeRuntimeArray: arrays whose length is that of the buffer. -/
def typeRuntimeArray : Nat := 29

/-- OpTypeStruct: structs of members. -/
def typeStruct : Nat := 30

/-- OpTypeOpaque: a type known by its name only. -/
def typeOpaque : Nat := 31

/-- OpTypePointer: pointers to a type in a storage class. -/
def typePointer : Nat := 32

/-- OpTypeFunction: functions of parameters. -/
def typeFunction : Nat := 33

/-- OpConstantTrue: the constant that is true. -/
def constantTrue : Nat := 41

/-- OpConstantFalse: the constant that is false. -/
def constantFalse : Nat := 42

/-- OpConstant: a constant number. -/
def constant : Nat := 43

/-- OpConstantComposite: a constant made of constants. -/
def constantComposite : Nat := 44

/-- OpConstantSampler: a constant sampler. -/
def constantSampler : Nat := 45

/-- OpConstantNull: the zero of a type. -/
def constantNull : Nat := 46

/-- OpSpecConstantTrue: a specialization constant that is true by default. -/
def specConstantTrue : Nat := 48

/-- OpSpecConstantFalse: a specialization constant that is false by default. -/
def specConstantFalse : Nat := 49

/-- OpSpecConstant: a specialization constant with a number as default. -/
def specConstant : Nat := 50

/-- OpSpecConstantComposite: a specialization constant made of constants. -/
def specConstantComposite : Nat := 51

/-- OpSpecConstantOp: a specialization constant that an operation gives. -/
def specConstantOp : Nat := 52

/-- OpFunction: the start of a function. -/
def function : Nat := 54

/-- OpFunctionParameter: a parameter of a function. -/
def functionParameter : Nat := 55

/-- OpFunctionEnd: the end of a function. -/
def functionEnd : Nat := 56

/-- OpFunctionCall: a call. -/
def functionCall : Nat := 57

/-- OpVariable: a variable in a storage class. -/
def var : Nat := 59

/-- OpImageTexelPointer: a pointer to a texel. -/
def imageTexelPointer : Nat := 60

/-- OpLoad: the value behind a pointer. -/
def load : Nat := 61

/-- OpStore: a value put behind a pointer. -/
def store : Nat := 62

/-- OpAccessChain: a pointer to a part of what a pointer leads to. -/
def accessChain : Nat := 65

/-- OpArrayLength: the length of a runtime array. -/
def arrayLength : Nat := 68

/-- OpDecorate: a decoration of an id. -/
def decorate : Nat := 71

/-- OpMemberDecorate: a decoration of a member of a struct. -/
def memberDecorate : Nat := 72

/-- OpDecorationGroup: a group of decorations. -/
def decorationGroup : Nat := 73

/-- OpGroupDecorate: the decorations of a group for ids. -/
def groupDecorate : Nat := 74

/-- OpGroupMemberDecorate: the decorations of a group for members of structs. -/
def groupMemberDecorate : Nat := 75

/-- OpVectorExtractDynamic: a component by an index that is computed. -/
def vectorExtractDynamic : Nat := 77

/-- OpVectorShuffle: components of two vectors. -/
def vectorShuffle : Nat := 79

/-- OpCompositeConstruct: a value made of its parts. -/
def compositeConstruct : Nat := 80

/-- OpCompositeExtract: a part of a value. -/
def compositeExtract : Nat := 81

/-- OpSampledImage: an image together with a sampler. -/
def sampledImage : Nat := 86

/-- OpImageFetch: a texel of a sampled image. -/
def imageFetch : Nat := 95

/-- OpImageRead: a texel of a storage image. -/
def imageRead : Nat := 98

/-- OpImageWrite: a texel written to a storage image. -/
def imageWrite : Nat := 99

/-- OpImageQuerySizeLod: the size of a level of an image. -/
def imageQuerySizeLod : Nat := 103

/-- OpImageQuerySize: the size of an image without levels. -/
def imageQuerySize : Nat := 104

/-- OpImageQueryLevels: how many levels an image has. -/
def imageQueryLevels : Nat := 106

/-- OpImageQuerySamples: how many samples a texel has. -/
def imageQuerySamples : Nat := 107

/-- OpBitcast: the same bits as another type. -/
def bitcast : Nat := 124

/-- OpIAdd: the sum of integers. -/
def iAdd : Nat := 128

/-- OpFAdd: the sum of floats. -/
def fAdd : Nat := 129

/-- OpISub: the difference of integers. -/
def iSub : Nat := 130

/-- OpFSub: the difference of floats. -/
def fSub : Nat := 131

/-- OpIMul: the product of integers. -/
def iMul : Nat := 132

/-- OpFMul: the product of floats. -/
def fMul : Nat := 133

/-- OpSelect: one of two values. -/
def select : Nat := 169

/-- OpIEqual: the integers are equal. -/
def iEqual : Nat := 170

/-- OpControlBarrier: a barrier for invocations. -/
def controlBarrier : Nat := 224

/-- OpAtomicLoad: an atomic read. -/
def atomicLoad : Nat := 227

/-- OpAtomicStore: an atomic write. -/
def atomicStore : Nat := 228

/-- OpAtomicExchange: an atomic exchange. -/
def atomicExchange : Nat := 229

/-- OpAtomicCompareExchange: an atomic exchange of an expected value. -/
def atomicCompareExchange : Nat := 230

/-- OpLoopMerge: where a loop ends and continues. -/
def loopMerge : Nat := 246

/-- OpSelectionMerge: where a selection ends. -/
def selectionMerge : Nat := 247

/-- OpLabel: the start of a block. -/
def label : Nat := 248

/-- OpBranch: a jump. -/
def branch : Nat := 249

/-- OpBranchConditional: a jump to one of two blocks. -/
def branchConditional : Nat := 250

/-- OpSwitch: a jump by a selector. -/
def switch : Nat := 251

/-- OpKill: the end of a fragment invocation. -/
def kill : Nat := 252

/-- OpReturn: a return without a value. -/
def ret : Nat := 253

/-- OpReturnValue: a return with a value. -/
def returnValue : Nat := 254

/-- OpUnreachable: the end of a block that is never reached. -/
def unreachable : Nat := 255

/-- OpNoLine: the end of what a source line covers. -/
def noLine : Nat := 317

/-- OpModuleProcessed: what a tool did to the module. -/
def moduleProcessed : Nat := 330

/-- OpTerminateInvocation: the end of an invocation. -/
def terminateInvocation : Nat := 4416

/-- OpIgnoreIntersectionKHR: the end of an any-hit shader that ignores the hit. -/
def ignoreIntersectionKHR : Nat := 4448

/-- OpTerminateRayKHR: the end of an any-hit shader that ends the ray. -/
def terminateRayKHR : Nat := 4449

/-- OpEmitMeshTasksEXT: the end of a task shader. -/
def emitMeshTasksEXT : Nat := 5294

/-- OpAtomicFAddEXT: an atomic sum of floats. -/
def atomicFAdd : Nat := 6035

/-- OpDecorateString: a decoration of an id with texts. -/
def decorateString : Nat := 5632

/-- OpMemberDecorateString: a decoration of a member with texts. -/
def memberDecorateString : Nat := 5633

end ShaderKit.Spirv.Op
