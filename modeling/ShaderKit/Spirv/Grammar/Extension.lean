import ShaderKit.Spirv.Grammar.Slot

/-!
# Extension instructions

The instructions that extensions reserve, by ascending opcode.  Of an opcode with several names the
first one stands here.
-/

namespace ShaderKit.Spirv.Grammar

open Enumeration Slot

/-- Opcodes 4160 to 5570. -/
def crossVendor : List InstructionForm :=
  [⟨4160, "ColorAttachmentReadEXT", [ty, res, ref, refOpt]⟩,
   ⟨4161, "DepthAttachmentReadEXT", [ty, res, refOpt]⟩,
   ⟨4162, "StencilAttachmentReadEXT", [ty, res, refOpt]⟩,
   ⟨4416, "TerminateInvocation", []⟩,
   ⟨4421, "SubgroupBallotKHR", [ty, res, ref]⟩,
   ⟨4422, "SubgroupFirstInvocationKHR", [ty, res, ref]⟩,
   ⟨4428, "SubgroupAllKHR", [ty, res, ref]⟩,
   ⟨4429, "SubgroupAnyKHR", [ty, res, ref]⟩,
   ⟨4430, "SubgroupAllEqualKHR", [ty, res, ref]⟩,
   ⟨4431, "GroupNonUniformRotateKHR", [ty, res, scp, ref, ref, refOpt]⟩,
   ⟨4432, "SubgroupReadInvocationKHR", [ty, res, ref, ref]⟩,
   ⟨4445, "TraceRayKHR", [ref, ref, ref, ref, ref, ref, ref, ref, ref, ref, ref]⟩,
   ⟨4446, "ExecuteCallableKHR", [ref, ref]⟩,
   ⟨4447, "ConvertUToAccelerationStructureKHR", [ty, res, ref]⟩,
   ⟨4448, "IgnoreIntersectionKHR", []⟩,
   ⟨4449, "TerminateRayKHR", []⟩,
   ⟨4450, "SDot", [ty, res, ref, ref, opt packedVectorFormat]⟩,
   ⟨4451, "UDot", [ty, res, ref, ref, opt packedVectorFormat]⟩,
   ⟨4452, "SUDot", [ty, res, ref, ref, opt packedVectorFormat]⟩,
   ⟨4453, "SDotAccSat", [ty, res, ref, ref, ref, opt packedVectorFormat]⟩,
   ⟨4454, "UDotAccSat", [ty, res, ref, ref, ref, opt packedVectorFormat]⟩,
   ⟨4455, "SUDotAccSat", [ty, res, ref, ref, ref, opt packedVectorFormat]⟩,
   ⟨4456, "TypeCooperativeMatrixKHR", [res, ref, scp, ref, ref, ref]⟩,
   ⟨4457, "CooperativeMatrixLoadKHR", [ty, res, ref, ref, refOpt, opt memoryAccess]⟩,
   ⟨4458, "CooperativeMatrixStoreKHR", [ref, ref, ref, refOpt, opt memoryAccess]⟩,
   ⟨4459, "CooperativeMatrixMulAddKHR", [ty, res, ref, ref, ref, opt cooperativeMatrixOperands]⟩,
   ⟨4460, "CooperativeMatrixLengthKHR", [ty, res, ref]⟩,
   ⟨4472, "TypeRayQueryKHR", [res]⟩,
   ⟨4473, "RayQueryInitializeKHR", [ref, ref, ref, ref, ref, ref, ref, ref]⟩,
   ⟨4474, "RayQueryTerminateKHR", [ref]⟩,
   ⟨4475, "RayQueryGenerateIntersectionKHR", [ref, ref]⟩,
   ⟨4476, "RayQueryConfirmIntersectionKHR", [ref]⟩,
   ⟨4477, "RayQueryProceedKHR", [ty, res, ref]⟩,
   ⟨4479, "RayQueryGetIntersectionTypeKHR", [ty, res, ref, ref]⟩,
   ⟨4480, "ImageSampleWeightedQCOM", [ty, res, ref, ref, ref]⟩,
   ⟨4481, "ImageBoxFilterQCOM", [ty, res, ref, ref, ref]⟩,
   ⟨4482, "ImageBlockMatchSSDQCOM", [ty, res, ref, ref, ref, ref, ref]⟩,
   ⟨4483, "ImageBlockMatchSADQCOM", [ty, res, ref, ref, ref, ref, ref]⟩,
   ⟨5000, "GroupIAddNonUniformAMD", [ty, res, scp, one groupOperation, ref]⟩,
   ⟨5001, "GroupFAddNonUniformAMD", [ty, res, scp, one groupOperation, ref]⟩,
   ⟨5002, "GroupFMinNonUniformAMD", [ty, res, scp, one groupOperation, ref]⟩,
   ⟨5003, "GroupUMinNonUniformAMD", [ty, res, scp, one groupOperation, ref]⟩,
   ⟨5004, "GroupSMinNonUniformAMD", [ty, res, scp, one groupOperation, ref]⟩,
   ⟨5005, "GroupFMaxNonUniformAMD", [ty, res, scp, one groupOperation, ref]⟩,
   ⟨5006, "GroupUMaxNonUniformAMD", [ty, res, scp, one groupOperation, ref]⟩,
   ⟨5007, "GroupSMaxNonUniformAMD", [ty, res, scp, one groupOperation, ref]⟩,
   ⟨5011, "FragmentMaskFetchAMD", [ty, res, ref, ref]⟩,
   ⟨5012, "FragmentFetchAMD", [ty, res, ref, ref, ref]⟩,
   ⟨5056, "ReadClockKHR", [ty, res, scp]⟩,
   ⟨5075, "FinalizeNodePayloadsAMDX", [ref]⟩,
   ⟨5078, "FinishWritingNodePayloadAMDX", [ty, res, ref]⟩,
   ⟨5090, "InitializeNodePayloadsAMDX", [ref, scp, ref, ref]⟩,
   ⟨5249, "HitObjectRecordHitMotionNV",
      [ref, ref, ref, ref, ref, ref, ref, ref, ref, ref, ref, ref, ref, ref]⟩,
   ⟨5250, "HitObjectRecordHitWithIndexMotionNV",
      [ref, ref, ref, ref, ref, ref, ref, ref, ref, ref, ref, ref, ref]⟩,
   ⟨5251, "HitObjectRecordMissMotionNV", [ref, ref, ref, ref, ref, ref, ref]⟩,
   ⟨5252, "HitObjectGetWorldToObjectNV", [ty, res, ref]⟩,
   ⟨5253, "HitObjectGetObjectToWorldNV", [ty, res, ref]⟩,
   ⟨5254, "HitObjectGetObjectRayDirectionNV", [ty, res, ref]⟩,
   ⟨5255, "HitObjectGetObjectRayOriginNV", [ty, res, ref]⟩,
   ⟨5256, "HitObjectTraceRayMotionNV",
      [ref, ref, ref, ref, ref, ref, ref, ref, ref, ref, ref, ref, ref]⟩,
   ⟨5257, "HitObjectGetShaderRecordBufferHandleNV", [ty, res, ref]⟩,
   ⟨5258, "HitObjectGetShaderBindingTableRecordIndexNV", [ty, res, ref]⟩,
   ⟨5259, "HitObjectRecordEmptyNV", [ref]⟩,
   ⟨5260, "HitObjectTraceRayNV", [ref, ref, ref, ref, ref, ref, ref, ref, ref, ref, ref, ref]⟩,
   ⟨5261, "HitObjectRecordHitNV",
      [ref, ref, ref, ref, ref, ref, ref, ref, ref, ref, ref, ref, ref]⟩,
   ⟨5262, "HitObjectRecordHitWithIndexNV",
      [ref, ref, ref, ref, ref, ref, ref, ref, ref, ref, ref, ref]⟩,
   ⟨5263, "HitObjectRecordMissNV", [ref, ref, ref, ref, ref, ref]⟩,
   ⟨5264, "HitObjectExecuteShaderNV", [ref, ref]⟩,
   ⟨5265, "HitObjectGetCurrentTimeNV", [ty, res, ref]⟩,
   ⟨5266, "HitObjectGetAttributesNV", [ref, ref]⟩,
   ⟨5267, "HitObjectGetHitKindNV", [ty, res, ref]⟩,
   ⟨5268, "HitObjectGetPrimitiveIndexNV", [ty, res, ref]⟩,
   ⟨5269, "HitObjectGetGeometryIndexNV", [ty, res, ref]⟩,
   ⟨5270, "HitObjectGetInstanceIdNV", [ty, res, ref]⟩,
   ⟨5271, "HitObjectGetInstanceCustomIndexNV", [ty, res, ref]⟩,
   ⟨5272, "HitObjectGetWorldRayDirectionNV", [ty, res, ref]⟩,
   ⟨5273, "HitObjectGetWorldRayOriginNV", [ty, res, ref]⟩,
   ⟨5274, "HitObjectGetRayTMaxNV", [ty, res, ref]⟩,
   ⟨5275, "HitObjectGetRayTMinNV", [ty, res, ref]⟩,
   ⟨5276, "HitObjectIsEmptyNV", [ty, res, ref]⟩,
   ⟨5277, "HitObjectIsHitNV", [ty, res, ref]⟩,
   ⟨5278, "HitObjectIsMissNV", [ty, res, ref]⟩,
   ⟨5279, "ReorderThreadWithHitObjectNV", [ref, refOpt, refOpt]⟩,
   ⟨5280, "ReorderThreadWithHintNV", [ref, ref]⟩,
   ⟨5281, "TypeHitObjectNV", [res]⟩,
   ⟨5283, "ImageSampleFootprintNV", [ty, res, ref, ref, ref, ref, opt imageOperands]⟩,
   ⟨5294, "EmitMeshTasksEXT", [ref, ref, ref, refOpt]⟩,
   ⟨5295, "SetMeshOutputsEXT", [ref, ref]⟩,
   ⟨5296, "GroupNonUniformPartitionNV", [ty, res, ref]⟩,
   ⟨5299, "WritePackedPrimitiveIndices4x8NV", [ref, ref]⟩,
   ⟨5300, "FetchMicroTriangleVertexPositionNV", [ty, res, ref, ref, ref, ref, ref]⟩,
   ⟨5301, "FetchMicroTriangleVertexBarycentricNV", [ty, res, ref, ref, ref, ref, ref]⟩,
   ⟨5334, "ReportIntersectionNV", [ty, res, ref, ref]⟩,
   ⟨5335, "IgnoreIntersectionNV", []⟩,
   ⟨5336, "TerminateRayNV", []⟩,
   ⟨5337, "TraceNV", [ref, ref, ref, ref, ref, ref, ref, ref, ref, ref, ref]⟩,
   ⟨5338, "TraceMotionNV", [ref, ref, ref, ref, ref, ref, ref, ref, ref, ref, ref, ref]⟩,
   ⟨5339, "TraceRayMotionNV", [ref, ref, ref, ref, ref, ref, ref, ref, ref, ref, ref, ref]⟩,
   ⟨5340, "RayQueryGetIntersectionTriangleVertexPositionsKHR", [ty, res, ref, ref]⟩,
   ⟨5341, "TypeAccelerationStructureNV", [res]⟩,
   ⟨5344, "ExecuteCallableNV", [ref, ref]⟩,
   ⟨5358, "TypeCooperativeMatrixNV", [res, ref, scp, ref, ref]⟩,
   ⟨5359, "CooperativeMatrixLoadNV", [ty, res, ref, ref, ref, opt memoryAccess]⟩,
   ⟨5360, "CooperativeMatrixStoreNV", [ref, ref, ref, ref, opt memoryAccess]⟩,
   ⟨5361, "CooperativeMatrixMulAddNV", [ty, res, ref, ref, ref]⟩,
   ⟨5362, "CooperativeMatrixLengthNV", [ty, res, ref]⟩,
   ⟨5364, "BeginInvocationInterlockEXT", []⟩,
   ⟨5365, "EndInvocationInterlockEXT", []⟩,
   ⟨5380, "DemoteToHelperInvocation", []⟩,
   ⟨5381, "IsHelperInvocationEXT", [ty, res]⟩,
   ⟨5391, "ConvertUToImageNV", [ty, res, ref]⟩,
   ⟨5392, "ConvertUToSamplerNV", [ty, res, ref]⟩,
   ⟨5393, "ConvertImageToUNV", [ty, res, ref]⟩,
   ⟨5394, "ConvertSamplerToUNV", [ty, res, ref]⟩,
   ⟨5395, "ConvertUToSampledImageNV", [ty, res, ref]⟩,
   ⟨5396, "ConvertSampledImageToUNV", [ty, res, ref]⟩,
   ⟨5397, "SamplerImageAddressingModeNV", [lit]⟩]

/-- Opcodes 5571 to 5817. -/
def motionEstimation : List InstructionForm :=
  [⟨5571, "SubgroupShuffleINTEL", [ty, res, ref, ref]⟩,
   ⟨5572, "SubgroupShuffleDownINTEL", [ty, res, ref, ref, ref]⟩,
   ⟨5573, "SubgroupShuffleUpINTEL", [ty, res, ref, ref, ref]⟩,
   ⟨5574, "SubgroupShuffleXorINTEL", [ty, res, ref, ref]⟩,
   ⟨5575, "SubgroupBlockReadINTEL", [ty, res, ref]⟩,
   ⟨5576, "SubgroupBlockWriteINTEL", [ref, ref]⟩,
   ⟨5577, "SubgroupImageBlockReadINTEL", [ty, res, ref, ref]⟩,
   ⟨5578, "SubgroupImageBlockWriteINTEL", [ref, ref, ref]⟩,
   ⟨5580, "SubgroupImageMediaBlockReadINTEL", [ty, res, ref, ref, ref, ref]⟩,
   ⟨5581, "SubgroupImageMediaBlockWriteINTEL", [ref, ref, ref, ref, ref]⟩,
   ⟨5585, "UCountLeadingZerosINTEL", [ty, res, ref]⟩,
   ⟨5586, "UCountTrailingZerosINTEL", [ty, res, ref]⟩,
   ⟨5587, "AbsISubINTEL", [ty, res, ref, ref]⟩,
   ⟨5588, "AbsUSubINTEL", [ty, res, ref, ref]⟩,
   ⟨5589, "IAddSatINTEL", [ty, res, ref, ref]⟩,
   ⟨5590, "UAddSatINTEL", [ty, res, ref, ref]⟩,
   ⟨5591, "IAverageINTEL", [ty, res, ref, ref]⟩,
   ⟨5592, "UAverageINTEL", [ty, res, ref, ref]⟩,
   ⟨5593, "IAverageRoundedINTEL", [ty, res, ref, ref]⟩,
   ⟨5594, "UAverageRoundedINTEL", [ty, res, ref, ref]⟩,
   ⟨5595, "ISubSatINTEL", [ty, res, ref, ref]⟩,
   ⟨5596, "USubSatINTEL", [ty, res, ref, ref]⟩,
   ⟨5597, "IMul32x16INTEL", [ty, res, ref, ref]⟩,
   ⟨5598, "UMul32x16INTEL", [ty, res, ref, ref]⟩,
   ⟨5600, "ConstantFunctionPointerINTEL", [ty, res, ref]⟩,
   ⟨5601, "FunctionPointerCallINTEL", [ty, res, refs]⟩,
   ⟨5609, "AsmTargetINTEL", [ty, res, str]⟩,
   ⟨5610, "AsmINTEL", [ty, res, ref, ref, str, str]⟩,
   ⟨5611, "AsmCallINTEL", [ty, res, ref, refs]⟩,
   ⟨5614, "AtomicFMinEXT", [ty, res, ref, scp, sem, ref]⟩,
   ⟨5615, "AtomicFMaxEXT", [ty, res, ref, scp, sem, ref]⟩,
   ⟨5630, "AssumeTrueKHR", [ref]⟩,
   ⟨5631, "ExpectKHR", [ty, res, ref, ref]⟩,
   ⟨5632, "DecorateString", [ref, one decoration]⟩,
   ⟨5633, "MemberDecorateString", [ref, lit, one decoration]⟩,
   ⟨5699, "VmeImageINTEL", [ty, res, ref, ref]⟩,
   ⟨5700, "TypeVmeImageINTEL", [res, ref]⟩,
   ⟨5701, "TypeAvcImePayloadINTEL", [res]⟩,
   ⟨5702, "TypeAvcRefPayloadINTEL", [res]⟩,
   ⟨5703, "TypeAvcSicPayloadINTEL", [res]⟩,
   ⟨5704, "TypeAvcMcePayloadINTEL", [res]⟩,
   ⟨5705, "TypeAvcMceResultINTEL", [res]⟩,
   ⟨5706, "TypeAvcImeResultINTEL", [res]⟩,
   ⟨5707, "TypeAvcImeResultSingleReferenceStreamoutINTEL", [res]⟩,
   ⟨5708, "TypeAvcImeResultDualReferenceStreamoutINTEL", [res]⟩,
   ⟨5709, "TypeAvcImeSingleReferenceStreaminINTEL", [res]⟩,
   ⟨5710, "TypeAvcImeDualReferenceStreaminINTEL", [res]⟩,
   ⟨5711, "TypeAvcRefResultINTEL", [res]⟩,
   ⟨5712, "TypeAvcSicResultINTEL", [res]⟩,
   ⟨5713, "SubgroupAvcMceGetDefaultInterBaseMultiReferencePenaltyINTEL", [ty, res, ref, ref]⟩,
   ⟨5714, "SubgroupAvcMceSetInterBaseMultiReferencePenaltyINTEL", [ty, res, ref, ref]⟩,
   ⟨5715, "SubgroupAvcMceGetDefaultInterShapePenaltyINTEL", [ty, res, ref, ref]⟩,
   ⟨5716, "SubgroupAvcMceSetInterShapePenaltyINTEL", [ty, res, ref, ref]⟩,
   ⟨5717, "SubgroupAvcMceGetDefaultInterDirectionPenaltyINTEL", [ty, res, ref, ref]⟩,
   ⟨5718, "SubgroupAvcMceSetInterDirectionPenaltyINTEL", [ty, res, ref, ref]⟩,
   ⟨5719, "SubgroupAvcMceGetDefaultIntraLumaShapePenaltyINTEL", [ty, res, ref, ref]⟩,
   ⟨5720, "SubgroupAvcMceGetDefaultInterMotionVectorCostTableINTEL", [ty, res, ref, ref]⟩,
   ⟨5721, "SubgroupAvcMceGetDefaultHighPenaltyCostTableINTEL", [ty, res]⟩,
   ⟨5722, "SubgroupAvcMceGetDefaultMediumPenaltyCostTableINTEL", [ty, res]⟩,
   ⟨5723, "SubgroupAvcMceGetDefaultLowPenaltyCostTableINTEL", [ty, res]⟩,
   ⟨5724, "SubgroupAvcMceSetMotionVectorCostFunctionINTEL", [ty, res, ref, ref, ref, ref]⟩,
   ⟨5725, "SubgroupAvcMceGetDefaultIntraLumaModePenaltyINTEL", [ty, res, ref, ref]⟩,
   ⟨5726, "SubgroupAvcMceGetDefaultNonDcLumaIntraPenaltyINTEL", [ty, res]⟩,
   ⟨5727, "SubgroupAvcMceGetDefaultIntraChromaModeBasePenaltyINTEL", [ty, res]⟩,
   ⟨5728, "SubgroupAvcMceSetAcOnlyHaarINTEL", [ty, res, ref]⟩,
   ⟨5729, "SubgroupAvcMceSetSourceInterlacedFieldPolarityINTEL", [ty, res, ref, ref]⟩,
   ⟨5730, "SubgroupAvcMceSetSingleReferenceInterlacedFieldPolarityINTEL", [ty, res, ref, ref]⟩,
   ⟨5731, "SubgroupAvcMceSetDualReferenceInterlacedFieldPolaritiesINTEL",
      [ty, res, ref, ref, ref]⟩,
   ⟨5732, "SubgroupAvcMceConvertToImePayloadINTEL", [ty, res, ref]⟩,
   ⟨5733, "SubgroupAvcMceConvertToImeResultINTEL", [ty, res, ref]⟩,
   ⟨5734, "SubgroupAvcMceConvertToRefPayloadINTEL", [ty, res, ref]⟩,
   ⟨5735, "SubgroupAvcMceConvertToRefResultINTEL", [ty, res, ref]⟩,
   ⟨5736, "SubgroupAvcMceConvertToSicPayloadINTEL", [ty, res, ref]⟩,
   ⟨5737, "SubgroupAvcMceConvertToSicResultINTEL", [ty, res, ref]⟩,
   ⟨5738, "SubgroupAvcMceGetMotionVectorsINTEL", [ty, res, ref]⟩,
   ⟨5739, "SubgroupAvcMceGetInterDistortionsINTEL", [ty, res, ref]⟩,
   ⟨5740, "SubgroupAvcMceGetBestInterDistortionsINTEL", [ty, res, ref]⟩,
   ⟨5741, "SubgroupAvcMceGetInterMajorShapeINTEL", [ty, res, ref]⟩,
   ⟨5742, "SubgroupAvcMceGetInterMinorShapeINTEL", [ty, res, ref]⟩,
   ⟨5743, "SubgroupAvcMceGetInterDirectionsINTEL", [ty, res, ref]⟩,
   ⟨5744, "SubgroupAvcMceGetInterMotionVectorCountINTEL", [ty, res, ref]⟩,
   ⟨5745, "SubgroupAvcMceGetInterReferenceIdsINTEL", [ty, res, ref]⟩,
   ⟨5746, "SubgroupAvcMceGetInterReferenceInterlacedFieldPolaritiesINTEL",
      [ty, res, ref, ref, ref]⟩,
   ⟨5747, "SubgroupAvcImeInitializeINTEL", [ty, res, ref, ref, ref]⟩,
   ⟨5748, "SubgroupAvcImeSetSingleReferenceINTEL", [ty, res, ref, ref, ref]⟩,
   ⟨5749, "SubgroupAvcImeSetDualReferenceINTEL", [ty, res, ref, ref, ref, ref]⟩,
   ⟨5750, "SubgroupAvcImeRefWindowSizeINTEL", [ty, res, ref, ref]⟩,
   ⟨5751, "SubgroupAvcImeAdjustRefOffsetINTEL", [ty, res, ref, ref, ref, ref]⟩,
   ⟨5752, "SubgroupAvcImeConvertToMcePayloadINTEL", [ty, res, ref]⟩,
   ⟨5753, "SubgroupAvcImeSetMaxMotionVectorCountINTEL", [ty, res, ref, ref]⟩,
   ⟨5754, "SubgroupAvcImeSetUnidirectionalMixDisableINTEL", [ty, res, ref]⟩,
   ⟨5755, "SubgroupAvcImeSetEarlySearchTerminationThresholdINTEL", [ty, res, ref, ref]⟩,
   ⟨5756, "SubgroupAvcImeSetWeightedSadINTEL", [ty, res, ref, ref]⟩,
   ⟨5757, "SubgroupAvcImeEvaluateWithSingleReferenceINTEL", [ty, res, ref, ref, ref]⟩,
   ⟨5758, "SubgroupAvcImeEvaluateWithDualReferenceINTEL", [ty, res, ref, ref, ref, ref]⟩,
   ⟨5759, "SubgroupAvcImeEvaluateWithSingleReferenceStreaminINTEL", [ty, res, ref, ref, ref, ref]⟩,
   ⟨5760, "SubgroupAvcImeEvaluateWithDualReferenceStreaminINTEL",
      [ty, res, ref, ref, ref, ref, ref]⟩,
   ⟨5761, "SubgroupAvcImeEvaluateWithSingleReferenceStreamoutINTEL", [ty, res, ref, ref, ref]⟩,
   ⟨5762, "SubgroupAvcImeEvaluateWithDualReferenceStreamoutINTEL", [ty, res, ref, ref, ref, ref]⟩,
   ⟨5763, "SubgroupAvcImeEvaluateWithSingleReferenceStreaminoutINTEL",
      [ty, res, ref, ref, ref, ref]⟩,
   ⟨5764, "SubgroupAvcImeEvaluateWithDualReferenceStreaminoutINTEL",
      [ty, res, ref, ref, ref, ref, ref]⟩,
   ⟨5765, "SubgroupAvcImeConvertToMceResultINTEL", [ty, res, ref]⟩,
   ⟨5766, "SubgroupAvcImeGetSingleReferenceStreaminINTEL", [ty, res, ref]⟩,
   ⟨5767, "SubgroupAvcImeGetDualReferenceStreaminINTEL", [ty, res, ref]⟩,
   ⟨5768, "SubgroupAvcImeStripSingleReferenceStreamoutINTEL", [ty, res, ref]⟩,
   ⟨5769, "SubgroupAvcImeStripDualReferenceStreamoutINTEL", [ty, res, ref]⟩,
   ⟨5770, "SubgroupAvcImeGetStreamoutSingleReferenceMajorShapeMotionVectorsINTEL",
      [ty, res, ref, ref]⟩,
   ⟨5771, "SubgroupAvcImeGetStreamoutSingleReferenceMajorShapeDistortionsINTEL",
      [ty, res, ref, ref]⟩,
   ⟨5772, "SubgroupAvcImeGetStreamoutSingleReferenceMajorShapeReferenceIdsINTEL",
      [ty, res, ref, ref]⟩,
   ⟨5773, "SubgroupAvcImeGetStreamoutDualReferenceMajorShapeMotionVectorsINTEL",
      [ty, res, ref, ref, ref]⟩,
   ⟨5774, "SubgroupAvcImeGetStreamoutDualReferenceMajorShapeDistortionsINTEL",
      [ty, res, ref, ref, ref]⟩,
   ⟨5775, "SubgroupAvcImeGetStreamoutDualReferenceMajorShapeReferenceIdsINTEL",
      [ty, res, ref, ref, ref]⟩,
   ⟨5776, "SubgroupAvcImeGetBorderReachedINTEL", [ty, res, ref, ref]⟩,
   ⟨5777, "SubgroupAvcImeGetTruncatedSearchIndicationINTEL", [ty, res, ref]⟩,
   ⟨5778, "SubgroupAvcImeGetUnidirectionalEarlySearchTerminationINTEL", [ty, res, ref]⟩,
   ⟨5779, "SubgroupAvcImeGetWeightingPatternMinimumMotionVectorINTEL", [ty, res, ref]⟩,
   ⟨5780, "SubgroupAvcImeGetWeightingPatternMinimumDistortionINTEL", [ty, res, ref]⟩,
   ⟨5781, "SubgroupAvcFmeInitializeINTEL", [ty, res, ref, ref, ref, ref, ref, ref, ref]⟩,
   ⟨5782, "SubgroupAvcBmeInitializeINTEL", [ty, res, ref, ref, ref, ref, ref, ref, ref, ref]⟩,
   ⟨5783, "SubgroupAvcRefConvertToMcePayloadINTEL", [ty, res, ref]⟩,
   ⟨5784, "SubgroupAvcRefSetBidirectionalMixDisableINTEL", [ty, res, ref]⟩,
   ⟨5785, "SubgroupAvcRefSetBilinearFilterEnableINTEL", [ty, res, ref]⟩,
   ⟨5786, "SubgroupAvcRefEvaluateWithSingleReferenceINTEL", [ty, res, ref, ref, ref]⟩,
   ⟨5787, "SubgroupAvcRefEvaluateWithDualReferenceINTEL", [ty, res, ref, ref, ref, ref]⟩,
   ⟨5788, "SubgroupAvcRefEvaluateWithMultiReferenceINTEL", [ty, res, ref, ref, ref]⟩,
   ⟨5789, "SubgroupAvcRefEvaluateWithMultiReferenceInterlacedINTEL",
      [ty, res, ref, ref, ref, ref]⟩,
   ⟨5790, "SubgroupAvcRefConvertToMceResultINTEL", [ty, res, ref]⟩,
   ⟨5791, "SubgroupAvcSicInitializeINTEL", [ty, res, ref]⟩,
   ⟨5792, "SubgroupAvcSicConfigureSkcINTEL", [ty, res, ref, ref, ref, ref, ref]⟩,
   ⟨5793, "SubgroupAvcSicConfigureIpeLumaINTEL",
      [ty, res, ref, ref, ref, ref, ref, ref, ref, ref]⟩,
   ⟨5794, "SubgroupAvcSicConfigureIpeLumaChromaINTEL",
      [ty, res, ref, ref, ref, ref, ref, ref, ref, ref, ref, ref, ref]⟩,
   ⟨5795, "SubgroupAvcSicGetMotionVectorMaskINTEL", [ty, res, ref, ref]⟩,
   ⟨5796, "SubgroupAvcSicConvertToMcePayloadINTEL", [ty, res, ref]⟩,
   ⟨5797, "SubgroupAvcSicSetIntraLumaShapePenaltyINTEL", [ty, res, ref, ref]⟩,
   ⟨5798, "SubgroupAvcSicSetIntraLumaModeCostFunctionINTEL", [ty, res, ref, ref, ref, ref]⟩,
   ⟨5799, "SubgroupAvcSicSetIntraChromaModeCostFunctionINTEL", [ty, res, ref, ref]⟩,
   ⟨5800, "SubgroupAvcSicSetBilinearFilterEnableINTEL", [ty, res, ref]⟩,
   ⟨5801, "SubgroupAvcSicSetSkcForwardTransformEnableINTEL", [ty, res, ref, ref]⟩,
   ⟨5802, "SubgroupAvcSicSetBlockBasedRawSkipSadINTEL", [ty, res, ref, ref]⟩,
   ⟨5803, "SubgroupAvcSicEvaluateIpeINTEL", [ty, res, ref, ref]⟩,
   ⟨5804, "SubgroupAvcSicEvaluateWithSingleReferenceINTEL", [ty, res, ref, ref, ref]⟩,
   ⟨5805, "SubgroupAvcSicEvaluateWithDualReferenceINTEL", [ty, res, ref, ref, ref, ref]⟩,
   ⟨5806, "SubgroupAvcSicEvaluateWithMultiReferenceINTEL", [ty, res, ref, ref, ref]⟩,
   ⟨5807, "SubgroupAvcSicEvaluateWithMultiReferenceInterlacedINTEL",
      [ty, res, ref, ref, ref, ref]⟩,
   ⟨5808, "SubgroupAvcSicConvertToMceResultINTEL", [ty, res, ref]⟩,
   ⟨5809, "SubgroupAvcSicGetIpeLumaShapeINTEL", [ty, res, ref]⟩,
   ⟨5810, "SubgroupAvcSicGetBestIpeLumaDistortionINTEL", [ty, res, ref]⟩,
   ⟨5811, "SubgroupAvcSicGetBestIpeChromaDistortionINTEL", [ty, res, ref]⟩,
   ⟨5812, "SubgroupAvcSicGetPackedIpeLumaModesINTEL", [ty, res, ref]⟩,
   ⟨5813, "SubgroupAvcSicGetIpeChromaModeINTEL", [ty, res, ref]⟩,
   ⟨5814, "SubgroupAvcSicGetPackedSkcLumaCountThresholdINTEL", [ty, res, ref]⟩,
   ⟨5815, "SubgroupAvcSicGetPackedSkcLumaSumThresholdINTEL", [ty, res, ref]⟩,
   ⟨5816, "SubgroupAvcSicGetInterRawSadsINTEL", [ty, res, ref]⟩]

/-- Opcodes from 5818. -/
def arbitraryPrecision : List InstructionForm :=
  [⟨5818, "VariableLengthArrayINTEL", [ty, res, ref]⟩,
   ⟨5819, "SaveMemoryINTEL", [ty, res]⟩,
   ⟨5820, "RestoreMemoryINTEL", [ref]⟩,
   ⟨5840, "ArbitraryFloatSinCosPiINTEL", [ty, res, ref, lit, lit, lit, lit, lit, lit]⟩,
   ⟨5841, "ArbitraryFloatCastINTEL", [ty, res, ref, lit, lit, lit, lit, lit, lit]⟩,
   ⟨5842, "ArbitraryFloatCastFromIntINTEL", [ty, res, ref, lit, lit, lit, lit, lit, lit]⟩,
   ⟨5843, "ArbitraryFloatCastToIntINTEL", [ty, res, ref, lit, lit, lit, lit, lit]⟩,
   ⟨5846, "ArbitraryFloatAddINTEL", [ty, res, ref, lit, ref, lit, lit, lit, lit, lit]⟩,
   ⟨5847, "ArbitraryFloatSubINTEL", [ty, res, ref, lit, ref, lit, lit, lit, lit, lit]⟩,
   ⟨5848, "ArbitraryFloatMulINTEL", [ty, res, ref, lit, ref, lit, lit, lit, lit, lit]⟩,
   ⟨5849, "ArbitraryFloatDivINTEL", [ty, res, ref, lit, ref, lit, lit, lit, lit, lit]⟩,
   ⟨5850, "ArbitraryFloatGTINTEL", [ty, res, ref, lit, ref, lit]⟩,
   ⟨5851, "ArbitraryFloatGEINTEL", [ty, res, ref, lit, ref, lit]⟩,
   ⟨5852, "ArbitraryFloatLTINTEL", [ty, res, ref, lit, ref, lit]⟩,
   ⟨5853, "ArbitraryFloatLEINTEL", [ty, res, ref, lit, ref, lit]⟩,
   ⟨5854, "ArbitraryFloatEQINTEL", [ty, res, ref, lit, ref, lit]⟩,
   ⟨5855, "ArbitraryFloatRecipINTEL", [ty, res, ref, lit, lit, lit, lit, lit]⟩,
   ⟨5856, "ArbitraryFloatRSqrtINTEL", [ty, res, ref, lit, lit, lit, lit, lit]⟩,
   ⟨5857, "ArbitraryFloatCbrtINTEL", [ty, res, ref, lit, lit, lit, lit, lit]⟩,
   ⟨5858, "ArbitraryFloatHypotINTEL", [ty, res, ref, lit, ref, lit, lit, lit, lit, lit]⟩,
   ⟨5859, "ArbitraryFloatSqrtINTEL", [ty, res, ref, lit, lit, lit, lit, lit]⟩,
   ⟨5860, "ArbitraryFloatLogINTEL", [ty, res, ref, lit, lit, lit, lit, lit]⟩,
   ⟨5861, "ArbitraryFloatLog2INTEL", [ty, res, ref, lit, lit, lit, lit, lit]⟩,
   ⟨5862, "ArbitraryFloatLog10INTEL", [ty, res, ref, lit, lit, lit, lit, lit]⟩,
   ⟨5863, "ArbitraryFloatLog1pINTEL", [ty, res, ref, lit, lit, lit, lit, lit]⟩,
   ⟨5864, "ArbitraryFloatExpINTEL", [ty, res, ref, lit, lit, lit, lit, lit]⟩,
   ⟨5865, "ArbitraryFloatExp2INTEL", [ty, res, ref, lit, lit, lit, lit, lit]⟩,
   ⟨5866, "ArbitraryFloatExp10INTEL", [ty, res, ref, lit, lit, lit, lit, lit]⟩,
   ⟨5867, "ArbitraryFloatExpm1INTEL", [ty, res, ref, lit, lit, lit, lit, lit]⟩,
   ⟨5868, "ArbitraryFloatSinINTEL", [ty, res, ref, lit, lit, lit, lit, lit]⟩,
   ⟨5869, "ArbitraryFloatCosINTEL", [ty, res, ref, lit, lit, lit, lit, lit]⟩,
   ⟨5870, "ArbitraryFloatSinCosINTEL", [ty, res, ref, lit, lit, lit, lit, lit]⟩,
   ⟨5871, "ArbitraryFloatSinPiINTEL", [ty, res, ref, lit, lit, lit, lit, lit]⟩,
   ⟨5872, "ArbitraryFloatCosPiINTEL", [ty, res, ref, lit, lit, lit, lit, lit]⟩,
   ⟨5873, "ArbitraryFloatASinINTEL", [ty, res, ref, lit, lit, lit, lit, lit]⟩,
   ⟨5874, "ArbitraryFloatASinPiINTEL", [ty, res, ref, lit, lit, lit, lit, lit]⟩,
   ⟨5875, "ArbitraryFloatACosINTEL", [ty, res, ref, lit, lit, lit, lit, lit]⟩,
   ⟨5876, "ArbitraryFloatACosPiINTEL", [ty, res, ref, lit, lit, lit, lit, lit]⟩,
   ⟨5877, "ArbitraryFloatATanINTEL", [ty, res, ref, lit, lit, lit, lit, lit]⟩,
   ⟨5878, "ArbitraryFloatATanPiINTEL", [ty, res, ref, lit, lit, lit, lit, lit]⟩,
   ⟨5879, "ArbitraryFloatATan2INTEL", [ty, res, ref, lit, ref, lit, lit, lit, lit, lit]⟩,
   ⟨5880, "ArbitraryFloatPowINTEL", [ty, res, ref, lit, ref, lit, lit, lit, lit, lit]⟩,
   ⟨5881, "ArbitraryFloatPowRINTEL", [ty, res, ref, lit, ref, lit, lit, lit, lit, lit]⟩,
   ⟨5882, "ArbitraryFloatPowNINTEL", [ty, res, ref, lit, ref, lit, lit, lit, lit]⟩,
   ⟨5887, "LoopControlINTEL", [lits]⟩,
   ⟨5911, "AliasDomainDeclINTEL", [res, refOpt]⟩,
   ⟨5912, "AliasScopeDeclINTEL", [res, ref, refOpt]⟩,
   ⟨5913, "AliasScopeListDeclINTEL", [res, refs]⟩,
   ⟨5923, "FixedSqrtINTEL", [ty, res, ref, ref, lit, lit, lit, lit, lit]⟩,
   ⟨5924, "FixedRecipINTEL", [ty, res, ref, ref, lit, lit, lit, lit, lit]⟩,
   ⟨5925, "FixedRsqrtINTEL", [ty, res, ref, ref, lit, lit, lit, lit, lit]⟩,
   ⟨5926, "FixedSinINTEL", [ty, res, ref, ref, lit, lit, lit, lit, lit]⟩,
   ⟨5927, "FixedCosINTEL", [ty, res, ref, ref, lit, lit, lit, lit, lit]⟩,
   ⟨5928, "FixedSinCosINTEL", [ty, res, ref, ref, lit, lit, lit, lit, lit]⟩,
   ⟨5929, "FixedSinPiINTEL", [ty, res, ref, ref, lit, lit, lit, lit, lit]⟩,
   ⟨5930, "FixedCosPiINTEL", [ty, res, ref, ref, lit, lit, lit, lit, lit]⟩,
   ⟨5931, "FixedSinCosPiINTEL", [ty, res, ref, ref, lit, lit, lit, lit, lit]⟩,
   ⟨5932, "FixedLogINTEL", [ty, res, ref, ref, lit, lit, lit, lit, lit]⟩,
   ⟨5933, "FixedExpINTEL", [ty, res, ref, ref, lit, lit, lit, lit, lit]⟩,
   ⟨5934, "PtrCastToCrossWorkgroupINTEL", [ty, res, ref]⟩,
   ⟨5938, "CrossWorkgroupCastToPtrINTEL", [ty, res, ref]⟩,
   ⟨5946, "ReadPipeBlockingINTEL", [ty, res, ref, ref]⟩,
   ⟨5947, "WritePipeBlockingINTEL", [ty, res, ref, ref]⟩,
   ⟨5949, "FPGARegINTEL", [ty, res, ref, ref]⟩,
   ⟨6016, "RayQueryGetRayTMinKHR", [ty, res, ref]⟩,
   ⟨6017, "RayQueryGetRayFlagsKHR", [ty, res, ref]⟩,
   ⟨6018, "RayQueryGetIntersectionTKHR", [ty, res, ref, ref]⟩,
   ⟨6019, "RayQueryGetIntersectionInstanceCustomIndexKHR", [ty, res, ref, ref]⟩,
   ⟨6020, "RayQueryGetIntersectionInstanceIdKHR", [ty, res, ref, ref]⟩,
   ⟨6021, "RayQueryGetIntersectionInstanceShaderBindingTableRecordOffsetKHR", [ty, res, ref, ref]⟩,
   ⟨6022, "RayQueryGetIntersectionGeometryIndexKHR", [ty, res, ref, ref]⟩,
   ⟨6023, "RayQueryGetIntersectionPrimitiveIndexKHR", [ty, res, ref, ref]⟩,
   ⟨6024, "RayQueryGetIntersectionBarycentricsKHR", [ty, res, ref, ref]⟩,
   ⟨6025, "RayQueryGetIntersectionFrontFaceKHR", [ty, res, ref, ref]⟩,
   ⟨6026, "RayQueryGetIntersectionCandidateAABBOpaqueKHR", [ty, res, ref]⟩,
   ⟨6027, "RayQueryGetIntersectionObjectRayDirectionKHR", [ty, res, ref, ref]⟩,
   ⟨6028, "RayQueryGetIntersectionObjectRayOriginKHR", [ty, res, ref, ref]⟩,
   ⟨6029, "RayQueryGetWorldRayDirectionKHR", [ty, res, ref]⟩,
   ⟨6030, "RayQueryGetWorldRayOriginKHR", [ty, res, ref]⟩,
   ⟨6031, "RayQueryGetIntersectionObjectToWorldKHR", [ty, res, ref, ref]⟩,
   ⟨6032, "RayQueryGetIntersectionWorldToObjectKHR", [ty, res, ref, ref]⟩,
   ⟨6035, "AtomicFAddEXT", [ty, res, ref, scp, sem, ref]⟩,
   ⟨6086, "TypeBufferSurfaceINTEL", [res, one accessQualifier]⟩,
   ⟨6090, "TypeStructContinuedINTEL", [refs]⟩,
   ⟨6091, "ConstantCompositeContinuedINTEL", [refs]⟩,
   ⟨6092, "SpecConstantCompositeContinuedINTEL", [refs]⟩,
   ⟨6116, "ConvertFToBF16INTEL", [ty, res, ref]⟩,
   ⟨6117, "ConvertBF16ToFINTEL", [ty, res, ref]⟩,
   ⟨6142, "ControlBarrierArriveINTEL", [scp, scp, sem]⟩,
   ⟨6143, "ControlBarrierWaitINTEL", [scp, scp, sem]⟩,
   ⟨6401, "GroupIMulKHR", [ty, res, scp, one groupOperation, ref]⟩,
   ⟨6402, "GroupFMulKHR", [ty, res, scp, one groupOperation, ref]⟩,
   ⟨6403, "GroupBitwiseAndKHR", [ty, res, scp, one groupOperation, ref]⟩,
   ⟨6404, "GroupBitwiseOrKHR", [ty, res, scp, one groupOperation, ref]⟩,
   ⟨6405, "GroupBitwiseXorKHR", [ty, res, scp, one groupOperation, ref]⟩,
   ⟨6406, "GroupLogicalAndKHR", [ty, res, scp, one groupOperation, ref]⟩,
   ⟨6407, "GroupLogicalOrKHR", [ty, res, scp, one groupOperation, ref]⟩,
   ⟨6408, "GroupLogicalXorKHR", [ty, res, scp, one groupOperation, ref]⟩,
   ⟨6428, "MaskedGatherINTEL", [ty, res, ref, lit, ref, ref]⟩,
   ⟨6429, "MaskedScatterINTEL", [ref, ref, lit, ref]⟩]

end ShaderKit.Spirv.Grammar
