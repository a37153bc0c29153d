import ShaderKit.Spirv.Grammar.Slot

/-!
# Core instructions

The instructions of the core specification, by ascending opcode.
-/

namespace ShaderKit.Spirv.Grammar

open Enumeration Slot

/-- Opcodes below 128: module structure, types, constants, memory, images, conversions. -/
def declarations : List InstructionForm :=
  [⟨0, "Nop", []⟩,
   ⟨1, "Undef", [ty, res]⟩,
   ⟨2, "SourceContinued", [str]⟩,
   ⟨3, "Source", [one sourceLanguage, lit, refOpt, strOpt]⟩,
   ⟨4, "SourceExtension", [str]⟩,
   ⟨5, "Name", [ref, str]⟩,
   ⟨6, "MemberName", [ref, lit, str]⟩,
   ⟨7, "String", [res, str]⟩,
   ⟨8, "Line", [ref, lit, lit]⟩,
   ⟨10, "Extension", [str]⟩,
   ⟨11, "ExtInstImport", [res, str]⟩,
   ⟨12, "ExtInst", [ty, res, ref, lit, refs]⟩,
   ⟨14, "MemoryModel", [one addressingModel, one memoryModel]⟩,
   ⟨15, "EntryPoint", [one executionModel, ref, str, refs]⟩,
   ⟨16, "ExecutionMode", [ref, one executionMode]⟩,
   ⟨17, "Capability", [one capability]⟩,
   ⟨19, "TypeVoid", [res]⟩,
   ⟨20, "TypeBool", [res]⟩,
   ⟨21, "TypeInt", [res, lit, lit]⟩,
   ⟨22, "TypeFloat", [res, lit]⟩,
   ⟨23, "TypeVector", [res, ref, lit]⟩,
   ⟨24, "TypeMatrix", [res, ref, lit]⟩,
   ⟨25, "TypeImage",
      [res, ref, one dim, lit, lit, lit, lit, one imageFormat, opt accessQualifier]⟩,
   ⟨26, "TypeSampler", [res]⟩,
   ⟨27, "TypeSampledImage", [res, ref]⟩,
   ⟨28, "TypeArray", [res, ref, ref]⟩,
   ⟨29, "TypeRuntimeArray", [res, ref]⟩,
   ⟨30, "TypeStruct", [res, refs]⟩,
   ⟨31, "TypeOpaque", [res, str]⟩,
   ⟨32, "TypePointer", [res, one storageClass, ref]⟩,
   ⟨33, "TypeFunction", [res, ref, refs]⟩,
   ⟨34, "TypeEvent", [res]⟩,
   ⟨35, "TypeDeviceEvent", [res]⟩,
   ⟨36, "TypeReserveId", [res]⟩,
   ⟨37, "TypeQueue", [res]⟩,
   ⟨38, "TypePipe", [res, one accessQualifier]⟩,
   ⟨39, "TypeForwardPointer", [ref, one storageClass]⟩,
   ⟨41, "ConstantTrue", [ty, res]⟩,
   ⟨42, "ConstantFalse", [ty, res]⟩,
   ⟨43, "Constant", [ty, res, typed]⟩,
   ⟨44, "ConstantComposite", [ty, res, refs]⟩,
   ⟨45, "ConstantSampler", [ty, res, one samplerAddressingMode, lit, one samplerFilterMode]⟩,
   ⟨46, "ConstantNull", [ty, res]⟩,
   ⟨48, "SpecConstantTrue", [ty, res]⟩,
   ⟨49, "SpecConstantFalse", [ty, res]⟩,
   ⟨50, "SpecConstant", [ty, res, typed]⟩,
   ⟨51, "SpecConstantComposite", [ty, res, refs]⟩,
   ⟨52, "SpecConstantOp", [ty, res, nest]⟩,
   ⟨54, "Function", [ty, res, one functionControl, ref]⟩,
   ⟨55, "FunctionParameter", [ty, res]⟩,
   ⟨56, "FunctionEnd", []⟩,
   ⟨57, "FunctionCall", [ty, res, ref, refs]⟩,
   ⟨59, "Variable", [ty, res, one storageClass, refOpt]⟩,
   ⟨60, "ImageTexelPointer", [ty, res, ref, ref, ref]⟩,
   ⟨61, "Load", [ty, res, ref, opt memoryAccess]⟩,
   ⟨62, "Store", [ref, ref, opt memoryAccess]⟩,
   ⟨63, "CopyMemory", [ref, ref, opt memoryAccess, opt memoryAccess]⟩,
   ⟨64, "CopyMemorySized", [ref, ref, ref, opt memoryAccess, opt memoryAccess]⟩,
   ⟨65, "AccessChain", [ty, res, ref, refs]⟩,
   ⟨66, "InBoundsAccessChain", [ty, res, ref, refs]⟩,
   ⟨67, "PtrAccessChain", [ty, res, ref, ref, refs]⟩,
   ⟨68, "ArrayLength", [ty, res, ref, lit]⟩,
   ⟨69, "GenericPtrMemSemantics", [ty, res, ref]⟩,
   ⟨70, "InBoundsPtrAccessChain", [ty, res, ref, ref, refs]⟩,
   ⟨71, "Decorate", [ref, one decoration]⟩,
   ⟨72, "MemberDecorate", [ref, lit, one decoration]⟩,
   ⟨73, "DecorationGroup", [res]⟩,
   ⟨74, "GroupDecorate", [ref, refs]⟩,
   ⟨75, "GroupMemberDecorate", [ref, pairs .id .literal]⟩,
   ⟨77, "VectorExtractDynamic", [ty, res, ref, ref]⟩,
   ⟨78, "VectorInsertDynamic", [ty, res, ref, ref, ref]⟩,
   ⟨79, "VectorShuffle", [ty, res, ref, ref, lits]⟩,
   ⟨80, "CompositeConstruct", [ty, res, refs]⟩,
   ⟨81, "CompositeExtract", [ty, res, ref, lits]⟩,
   ⟨82, "CompositeInsert", [ty, res, ref, ref, lits]⟩,
   ⟨83, "CopyObject", [ty, res, ref]⟩,
   ⟨84, "Transpose", [ty, res, ref]⟩,
   ⟨86, "SampledImage", [ty, res, ref, ref]⟩,
   ⟨87, "ImageSampleImplicitLod", [ty, res, ref, ref, opt imageOperands]⟩,
   ⟨88, "ImageSampleExplicitLod", [ty, res, ref, ref, one imageOperands]⟩,
   ⟨89, "ImageSampleDrefImplicitLod", [ty, res, ref, ref, ref, opt imageOperands]⟩,
   ⟨90, "ImageSampleDrefExplicitLod", [ty, res, ref, ref, ref, one imageOperands]⟩,
   ⟨91, "ImageSampleProjImplicitLod", [ty, res, ref, ref, opt imageOperands]⟩,
   ⟨92, "ImageSampleProjExplicitLod", [ty, res, ref, ref, one imageOperands]⟩,
   ⟨93, "ImageSampleProjDrefImplicitLod", [ty, res, ref, ref, ref, opt imageOperands]⟩,
   ⟨94, "ImageSampleProjDrefExplicitLod", [ty, res, ref, ref, ref, one imageOperands]⟩,
   ⟨95, "ImageFetch", [ty, res, ref, ref, opt imageOperands]⟩,
   ⟨96, "ImageGather", [ty, res, ref, ref, ref, opt imageOperands]⟩,
   ⟨97, "ImageDrefGather", [ty, res, ref, ref, ref, opt imageOperands]⟩,
   ⟨98, "ImageRead", [ty, res, ref, ref, opt imageOperands]⟩,
   ⟨99, "ImageWrite", [ref, ref, ref, opt imageOperands]⟩,
   ⟨100, "Image", [ty, res, ref]⟩,
   ⟨101, "ImageQueryFormat", [ty, res, ref]⟩,
   ⟨102, "ImageQueryOrder", [ty, res, ref]⟩,
   ⟨103, "ImageQuerySizeLod", [ty, res, ref, ref]⟩,
   ⟨104, "ImageQuerySize", [ty, res, ref]⟩,
   ⟨105, "ImageQueryLod", [ty, res, ref, ref]⟩,
   ⟨106, "ImageQueryLevels", [ty, res, ref]⟩,
   ⟨107, "ImageQuerySamples", [ty, res, ref]⟩,
   ⟨109, "ConvertFToU", [ty, res, ref]⟩,
   ⟨110, "ConvertFToS", [ty, res, ref]⟩,
   ⟨111, "ConvertSToF", [ty, res, ref]⟩,
   ⟨112, "ConvertUToF", [ty, res, ref]⟩,
   ⟨113, "UConvert", [ty, res, ref]⟩,
   ⟨114, "SConvert", [ty, res, ref]⟩,
   ⟨115, "FConvert", [ty, res, ref]⟩,
   ⟨116, "QuantizeToF16", [ty, res, ref]⟩,
   ⟨117, "ConvertPtrToU", [ty, res, ref]⟩,
   ⟨118, "SatConvertSToU", [ty, res, ref]⟩,
   ⟨119, "SatConvertUToS", [ty, res, ref]⟩,
   ⟨120, "ConvertUToPtr", [ty, res, ref]⟩,
   ⟨121, "PtrCastToGeneric", [ty, res, ref]⟩,
   ⟨122, "GenericCastToPtr", [ty, res, ref]⟩,
   ⟨123, "GenericCastToPtrExplicit", [ty, res, ref, one storageClass]⟩,
   ⟨124, "Bitcast", [ty, res, ref]⟩,
   ⟨126, "SNegate", [ty, res, ref]⟩,
   ⟨127, "FNegate", [ty, res, ref]⟩]

/-- Opcodes 128 to 255: arithmetic, logic, derivatives, atomics, control flow. -/
def computations : List InstructionForm :=
  [⟨128, "IAdd", [ty, res, ref, ref]⟩,
   ⟨129, "FAdd", [ty, res, ref, ref]⟩,
   ⟨130, "ISub", [ty, res, ref, ref]⟩,
   ⟨131, "FSub", [ty, res, ref, ref]⟩,
   ⟨132, "IMul", [ty, res, ref, ref]⟩,
   ⟨133, "FMul", [ty, res, ref, ref]⟩,
   ⟨134, "UDiv", [ty, res, ref, ref]⟩,
   ⟨135, "SDiv", [ty, res, ref, ref]⟩,
   ⟨136, "FDiv", [ty, res, ref, ref]⟩,
   ⟨137, "UMod", [ty, res, ref, ref]⟩,
   ⟨138, "SRem", [ty, res, ref, ref]⟩,
   ⟨139, "SMod", [ty, res, ref, ref]⟩,
   ⟨140, "FRem", [ty, res, ref, ref]⟩,
   ⟨141, "FMod", [ty, res, ref, ref]⟩,
   ⟨142, "VectorTimesScalar", [ty, res, ref, ref]⟩,
   ⟨143, "MatrixTimesScalar", [ty, res, ref, ref]⟩,
   ⟨144, "VectorTimesMatrix", [ty, res, ref, ref]⟩,
   ⟨145, "MatrixTimesVector", [ty, res, ref, ref]⟩,
   ⟨146, "MatrixTimesMatrix", [ty, res, ref, ref]⟩,
   ⟨147, "OuterProduct", [ty, res, ref, ref]⟩,
   ⟨148, "Dot", [ty, res, ref, ref]⟩,
   ⟨149, "IAddCarry", [ty, res, ref, ref]⟩,
   ⟨150, "ISubBorrow", [ty, res, ref, ref]⟩,
   ⟨151, "UMulExtended", [ty, res, ref, ref]⟩,
   ⟨152, "SMulExtended", [ty, res, ref, ref]⟩,
   ⟨154, "Any", [ty, res, ref]⟩,
   ⟨155, "All", [ty, res, ref]⟩,
   ⟨156, "IsNan", [ty, res, ref]⟩,
   ⟨157, "IsInf", [ty, res, ref]⟩,
   ⟨158, "IsFinite", [ty, res, ref]⟩,
   ⟨159, "IsNormal", [ty, res, ref]⟩,
   ⟨160, "SignBitSet", [ty, res, ref]⟩,
   ⟨161, "LessOrGreater", [ty, res, ref, ref]⟩,
   ⟨162, "Ordered", [ty, res, ref, ref]⟩,
   ⟨163, "Unordered", [ty, res, ref, ref]⟩,
   ⟨164, "LogicalEqual", [ty, res, ref, ref]⟩,
   ⟨165, "LogicalNotEqual", [ty, res, ref, ref]⟩,
   ⟨166, "LogicalOr", [ty, res, ref, ref]⟩,
   ⟨167, "LogicalAnd", [ty, res, ref, ref]⟩,
   ⟨168, "LogicalNot", [ty, res, ref]⟩,
   ⟨169, "Select", [ty, res, ref, ref, ref]⟩,
   ⟨170, "IEqual", [ty, res, ref, ref]⟩,
   ⟨171, "INotEqual", [ty, res, ref, ref]⟩,
   ⟨172, "UGreaterThan", [ty, res, ref, ref]⟩,
   ⟨173, "SGreaterThan", [ty, res, ref, ref]⟩,
   ⟨174, "UGreaterThanEqual", [ty, res, ref, ref]⟩,
   ⟨175, "SGreaterThanEqual", [ty, res, ref, ref]⟩,
   ⟨176, "ULessThan", [ty, res, ref, ref]⟩,
   ⟨177, "SLessThan", [ty, res, ref, ref]⟩,
   ⟨178, "ULessThanEqual", [ty, res, ref, ref]⟩,
   ⟨179, "SLessThanEqual", [ty, res, ref, ref]⟩,
   ⟨180, "FOrdEqual", [ty, res, ref, ref]⟩,
   ⟨181, "FUnordEqual", [ty, res, ref, ref]⟩,
   ⟨182, "FOrdNotEqual", [ty, res, ref, ref]⟩,
   ⟨183, "FUnordNotEqual", [ty, res, ref, ref]⟩,
   ⟨184, "FOrdLessThan", [ty, res, ref, ref]⟩,
   ⟨185, "FUnordLessThan", [ty, res, ref, ref]⟩,
   ⟨186, "FOrdGreaterThan", [ty, res, ref, ref]⟩,
   ⟨187, "FUnordGreaterThan", [ty, res, ref, ref]⟩,
   ⟨188, "FOrdLessThanEqual", [ty, res, ref, ref]⟩,
   ⟨189, "FUnordLessThanEqual", [ty, res, ref, ref]⟩,
   ⟨190, "FOrdGreaterThanEqual", [ty, res, ref, ref]⟩,
   ⟨191, "FUnordGreaterThanEqual", [ty, res, ref, ref]⟩,
   ⟨194, "ShiftRightLogical", [ty, res, ref, ref]⟩,
   ⟨195, "ShiftRightArithmetic", [ty, res, ref, ref]⟩,
   ⟨196, "ShiftLeftLogical", [ty, res, ref, ref]⟩,
   ⟨197, "BitwiseOr", [ty, res, ref, ref]⟩,
   ⟨198, "BitwiseXor", [ty, res, ref, ref]⟩,
   ⟨199, "BitwiseAnd", [ty, res, ref, ref]⟩,
   ⟨200, "Not", [ty, res, ref]⟩,
   ⟨201, "BitFieldInsert", [ty, res, ref, ref, ref, ref]⟩,
   ⟨202, "BitFieldSExtract", [ty, res, ref, ref, ref]⟩,
   ⟨203, "BitFieldUExtract", [ty, res, ref, ref, ref]⟩,
   ⟨204, "BitReverse", [ty, res, ref]⟩,
   ⟨205, "BitCount", [ty, res, ref]⟩,
   ⟨207, "DPdx", [ty, res, ref]⟩,
   ⟨208, "DPdy", [ty, res, ref]⟩,
   ⟨209, "Fwidth", [ty, res, ref]⟩,
   ⟨210, "DPdxFine", [ty, res, ref]⟩,
   ⟨211, "DPdyFine", [ty, res, ref]⟩,
   ⟨212, "FwidthFine", [ty, res, ref]⟩,
   ⟨213, "DPdxCoarse", [ty, res, ref]⟩,
   ⟨214, "DPdyCoarse", [ty, res, ref]⟩,
   ⟨215, "FwidthCoarse", [ty, res, ref]⟩,
   ⟨218, "EmitVertex", []⟩,
   ⟨219, "EndPrimitive", []⟩,
   ⟨220, "EmitStreamVertex", [ref]⟩,
   ⟨221, "EndStreamPrimitive", [ref]⟩,
   ⟨224, "ControlBarrier", [scp, scp, sem]⟩,
   ⟨225, "MemoryBarrier", [scp, sem]⟩,
   ⟨227, "AtomicLoad", [ty, res, ref, scp, sem]⟩,
   ⟨228, "AtomicStore", [ref, scp, sem, ref]⟩,
   ⟨229, "AtomicExchange", [ty, res, ref, scp, sem, ref]⟩,
   ⟨230, "AtomicCompareExchange", [ty, res, ref, scp, sem, sem, ref, ref]⟩,
   ⟨231, "AtomicCompareExchangeWeak", [ty, res, ref, scp, sem, sem, ref, ref]⟩,
   ⟨232, "AtomicIIncrement", [ty, res, ref, scp, sem]⟩,
   ⟨233, "AtomicIDecrement", [ty, res, ref, scp, sem]⟩,
   ⟨234, "AtomicIAdd", [ty, res, ref, scp, sem, ref]⟩,
   ⟨235, "AtomicISub", [ty, res, ref, scp, sem, ref]⟩,
   ⟨236, "AtomicSMin", [ty, res, ref, scp, sem, ref]⟩,
   ⟨237, "AtomicUMin", [ty, res, ref, scp, sem, ref]⟩,
   ⟨238, "AtomicSMax", [ty, res, ref, scp, sem, ref]⟩,
   ⟨239, "AtomicUMax", [ty, res, ref, scp, sem, ref]⟩,
   ⟨240, "AtomicAnd", [ty, res, ref, scp, sem, ref]⟩,
   ⟨241, "AtomicOr", [ty, res, ref, scp, sem, ref]⟩,
   ⟨242, "AtomicXor", [ty, res, ref, scp, sem, ref]⟩,
   ⟨245, "Phi", [ty, res, pairs .id .id]⟩,
   ⟨246, "LoopMerge", [ref, ref, one loopControl]⟩,
   ⟨247, "SelectionMerge", [ref, one selectionControl]⟩,
   ⟨248, "Label", [res]⟩,
   ⟨249, "Branch", [ref]⟩,
   ⟨250, "BranchConditional", [ref, ref, ref, lits]⟩,
   ⟨251, "Switch", [ref, ref, pairs .literal .id]⟩,
   ⟨252, "Kill", []⟩,
   ⟨253, "Return", []⟩,
   ⟨254, "ReturnValue", [ref]⟩,
   ⟨255, "Unreachable", []⟩]

/-- Opcodes from 256: groups, pipes, sparse images, subgroups. -/
def groupOperations : List InstructionForm :=
  [⟨256, "LifetimeStart", [ref, lit]⟩,
   ⟨257, "LifetimeStop", [ref, lit]⟩,
   ⟨259, "GroupAsyncCopy", [ty, res, scp, ref, ref, ref, ref, ref]⟩,
   ⟨260, "GroupWaitEvents", [scp, ref, ref]⟩,
   ⟨261, "GroupAll", [ty, res, scp, ref]⟩,
   ⟨262, "GroupAny", [ty, res, scp, ref]⟩,
   ⟨263, "GroupBroadcast", [ty, res, scp, ref, ref]⟩,
   ⟨264, "GroupIAdd", [ty, res, scp, one groupOperation, ref]⟩,
   ⟨265, "GroupFAdd", [ty, res, scp, one groupOperation, ref]⟩,
   ⟨266, "GroupFMin", [ty, res, scp, one groupOperation, ref]⟩,
   ⟨267, "GroupUMin", [ty, res, scp, one groupOperation, ref]⟩,
   ⟨268, "GroupSMin", [ty, res, scp, one groupOperation, ref]⟩,
   ⟨269, "GroupFMax", [ty, res, scp, one groupOperation, ref]⟩,
   ⟨270, "GroupUMax", [ty, res, scp, one groupOperation, ref]⟩,
   ⟨271, "GroupSMax", [ty, res, scp, one groupOperation, ref]⟩,
   ⟨274, "ReadPipe", [ty, res, ref, ref, ref, ref]⟩,
   ⟨275, "WritePipe", [ty, res, ref, ref, ref, ref]⟩,
   ⟨276, "ReservedReadPipe", [ty, res, ref, ref, ref, ref, ref, ref]⟩,
   ⟨277, "ReservedWritePipe", [ty, res, ref, ref, ref, ref, ref, ref]⟩,
   ⟨278, "ReserveReadPipePackets", [ty, res, ref, ref, ref, ref]⟩,
   ⟨279, "ReserveWritePipePackets", [ty, res, ref, ref, ref, ref]⟩,
   ⟨280, "CommitReadPipe", [ref, ref, ref, ref]⟩,
   ⟨281, "CommitWritePipe", [ref, ref, ref, ref]⟩,
   ⟨282, "IsValidReserveId", [ty, res, ref]⟩,
   ⟨283, "GetNumPipePackets", [ty, res, ref, ref, ref]⟩,
   ⟨284, "GetMaxPipePackets", [ty, res, ref, ref, ref]⟩,
   ⟨285, "GroupReserveReadPipePackets", [ty, res, scp, ref, ref, ref, ref]⟩,
   ⟨286, "GroupReserveWritePipePackets", [ty, res, scp, ref, ref, ref, ref]⟩,
   ⟨287, "GroupCommitReadPipe", [scp, ref, ref, ref, ref]⟩,
   ⟨288, "GroupCommitWritePipe", [scp, ref, ref, ref, ref]⟩,
   ⟨291, "EnqueueMarker", [ty, res, ref, ref, ref, ref]⟩,
   ⟨292, "EnqueueKernel", [ty, res, ref, ref, ref, ref, ref, ref, ref, ref, ref, ref, refs]⟩,
   ⟨293, "GetKernelNDrangeSubGroupCount", [ty, res, ref, ref, ref, ref, ref]⟩,
   ⟨294, "GetKernelNDrangeMaxSubGroupSize", [ty, res, ref, ref, ref, ref, ref]⟩,
   ⟨295, "GetKernelWorkGroupSize", [ty, res, ref, ref, ref, ref]⟩,
   ⟨296, "GetKernelPreferredWorkGroupSizeMultiple", [ty, res, ref, ref, ref, ref]⟩,
   ⟨297, "RetainEvent", [ref]⟩,
   ⟨298, "ReleaseEvent", [ref]⟩,
   ⟨299, "CreateUserEvent", [ty, res]⟩,
   ⟨300, "IsValidEvent", [ty, res, ref]⟩,
   ⟨301, "SetUserEventStatus", [ref, ref]⟩,
   ⟨302, "CaptureEventProfilingInfo", [ref, ref, ref]⟩,
   ⟨303, "GetDefaultQueue", [ty, res]⟩,
   ⟨304, "BuildNDRange", [ty, res, ref, ref, ref]⟩,
   ⟨305, "ImageSparseSampleImplicitLod", [ty, res, ref, ref, opt imageOperands]⟩,
   ⟨306, "ImageSparseSampleExplicitLod", [ty, res, ref, ref, one imageOperands]⟩,
   ⟨307, "ImageSparseSampleDrefImplicitLod", [ty, res, ref, ref, ref, opt imageOperands]⟩,
   ⟨308, "ImageSparseSampleDrefExplicitLod", [ty, res, ref, ref, ref, one imageOperands]⟩,
   ⟨309, "ImageSparseSampleProjImplicitLod", [ty, res, ref, ref, opt imageOperands]⟩,
   ⟨310, "ImageSparseSampleProjExplicitLod", [ty, res, ref, ref, one imageOperands]⟩,
   ⟨311, "ImageSparseSampleProjDrefImplicitLod", [ty, res, ref, ref, ref, opt imageOperands]⟩,
   ⟨312, "ImageSparseSampleProjDrefExplicitLod", [ty, res, ref, ref, ref, one imageOperands]⟩,
   ⟨313, "ImageSparseFetch", [ty, res, ref, ref, opt imageOperands]⟩,
   ⟨314, "ImageSparseGather", [ty, res, ref, ref, ref, opt imageOperands]⟩,
   ⟨315, "ImageSparseDrefGather", [ty, res, ref, ref, ref, opt imageOperands]⟩,
   ⟨316, "ImageSparseTexelsResident", [ty, res, ref]⟩,
   ⟨317, "NoLine", []⟩,
   ⟨318, "AtomicFlagTestAndSet", [ty, res, ref, scp, sem]⟩,
   ⟨319, "AtomicFlagClear", [ref, scp, sem]⟩,
   ⟨320, "ImageSparseRead", [ty, res, ref, ref, opt imageOperands]⟩,
   ⟨321, "SizeOf", [ty, res, ref]⟩,
   ⟨322, "TypePipeStorage", [res]⟩,
   ⟨323, "ConstantPipeStorage", [ty, res, lit, lit, lit]⟩,
   ⟨324, "CreatePipeFromPipeStorage", [ty, res, ref]⟩,
   ⟨325, "GetKernelLocalSizeForSubgroupCount", [ty, res, ref, ref, ref, ref, ref]⟩,
   ⟨326, "GetKernelMaxNumSubgroups", [ty, res, ref, ref, ref, ref]⟩,
   ⟨327, "TypeNamedBarrier", [res]⟩,
   ⟨328, "NamedBarrierInitialize", [ty, res, ref]⟩,
   ⟨329, "MemoryNamedBarrier", [ref, scp, sem]⟩,
   ⟨330, "ModuleProcessed", [str]⟩,
   ⟨331, "ExecutionModeId", [ref, one executionMode]⟩,
   ⟨332, "DecorateId", [ref, one decoration]⟩,
   ⟨333, "GroupNonUniformElect", [ty, res, scp]⟩,
   ⟨334, "GroupNonUniformAll", [ty, res, scp, ref]⟩,
   ⟨335, "GroupNonUniformAny", [ty, res, scp, ref]⟩,
   ⟨336, "GroupNonUniformAllEqual", [ty, res, scp, ref]⟩,
   ⟨337, "GroupNonUniformBroadcast", [ty, res, scp, ref, ref]⟩,
   ⟨338, "GroupNonUniformBroadcastFirst", [ty, res, scp, ref]⟩,
   ⟨339, "GroupNonUniformBallot", [ty, res, scp, ref]⟩,
   ⟨340, "GroupNonUniformInverseBallot", [ty, res, scp, ref]⟩,
   ⟨341, "GroupNonUniformBallotBitExtract", [ty, res, scp, ref, ref]⟩,
   ⟨342, "GroupNonUniformBallotBitCount", [ty, res, scp, one groupOperation, ref]⟩,
   ⟨343, "GroupNonUniformBallotFindLSB", [ty, res, scp, ref]⟩,
   ⟨344, "GroupNonUniformBallotFindMSB", [ty, res, scp, ref]⟩,
   ⟨345, "GroupNonUniformShuffle", [ty, res, scp, ref, ref]⟩,
   ⟨346, "GroupNonUniformShuffleXor", [ty, res, scp, ref, ref]⟩,
   ⟨347, "GroupNonUniformShuffleUp", [ty, res, scp, ref, ref]⟩,
   ⟨348, "GroupNonUniformShuffleDown", [ty, res, scp, ref, ref]⟩,
   ⟨349, "GroupNonUniformIAdd", [ty, res, scp, one groupOperation, ref, refOpt]⟩,
   ⟨350, "GroupNonUniformFAdd", [ty, res, scp, one groupOperation, ref, refOpt]⟩,
   ⟨351, "GroupNonUniformIMul", [ty, res, scp, one groupOperation, ref, refOpt]⟩,
   ⟨352, "GroupNonUniformFMul", [ty, res, scp, one groupOperation, ref, refOpt]⟩,
   ⟨353, "GroupNonUniformSMin", [ty, res, scp, one groupOperation, ref, refOpt]⟩,
   ⟨354, "GroupNonUniformUMin", [ty, res, scp, one groupOperation, ref, refOpt]⟩,
   ⟨355, "GroupNonUniformFMin", [ty, res, scp, one groupOperation, ref, refOpt]⟩,
   ⟨356, "GroupNonUniformSMax", [ty, res, scp, one groupOperation, ref, refOpt]⟩,
   ⟨357, "GroupNonUniformUMax", [ty, res, scp, one groupOperation, ref, refOpt]⟩,
   ⟨358, "GroupNonUniformFMax", [ty, res, scp, one groupOperation, ref, refOpt]⟩,
   ⟨359, "GroupNonUniformBitwiseAnd", [ty, res, scp, one groupOperation, ref, refOpt]⟩,
   ⟨360, "GroupNonUniformBitwiseOr", [ty, res, scp, one groupOperation, ref, refOpt]⟩,
   ⟨361, "GroupNonUniformBitwiseXor", [ty, res, scp, one groupOperation, ref, refOpt]⟩,
   ⟨362, "GroupNonUniformLogicalAnd", [ty, res, scp, one groupOperation, ref, refOpt]⟩,
   ⟨363, "GroupNonUniformLogicalOr", [ty, res, scp, one groupOperation, ref, refOpt]⟩,
   ⟨364, "GroupNonUniformLogicalXor", [ty, res, scp, one groupOperation, ref, refOpt]⟩,
   ⟨365, "GroupNonUniformQuadBroadcast", [ty, res, scp, ref, ref]⟩,
   ⟨366, "GroupNonUniformQuadSwap", [ty, res, scp, ref, ref]⟩,
   ⟨400, "CopyLogical", [ty, res, ref]⟩,
   ⟨401, "PtrEqual", [ty, res, ref, ref]⟩,
   ⟨402, "PtrNotEqual", [ty, res, ref, ref]⟩,
   ⟨403, "PtrDiff", [ty, res, ref, ref]⟩]

end ShaderKit.Spirv.Grammar
