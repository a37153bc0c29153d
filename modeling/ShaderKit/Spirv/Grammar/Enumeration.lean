import ShaderKit.Spirv.Grammar.Kind

/-!
# Enumerations

The values that each enumeration knows, as ranges, and the bits that each mask knows (`domain`), and the
parameters that follow a value (`parameters`).
-/

namespace ShaderKit.Spirv.Enumeration

/-- The name under which an unknown value is reported. -/
def name : Enumeration → String
  | imageOperands => "ImageOperands"
  | fpFastMathMode => "FPFastMathMode"
  | selectionControl => "SelectionControl"
  | loopControl => "LoopControl"
  | functionControl => "FunctionControl"
  | memoryAccess => "MemoryAccess"
  | kernelProfilingInfo => "KernelProfilingInfo"
  | cooperativeMatrixOperands => "CooperativeMatrixOperands"
  | sourceLanguage => "SourceLanguage"
  | executionModel => "ExecutionModel"
  | addressingModel => "AddressingModel"
  | memoryModel => "MemoryModel"
  | executionMode => "ExecutionMode"
  | storageClass => "StorageClass"
  | dim => "Dim"
  | samplerAddressingMode => "SamplerAddressingMode"
  | samplerFilterMode => "SamplerFilterMode"
  | imageFormat => "ImageFormat"
  | fpRoundingMode => "FPRoundingMode"
  | fpDenormMode => "FPDenormMode"
  | quantizationModes => "QuantizationModes"
  | fpOperationMode => "FPOperationMode"
  | overflowModes => "OverflowModes"
  | linkageType => "LinkageType"
  | accessQualifier => "AccessQualifier"
  | hostAccessQualifier => "HostAccessQualifier"
  | functionParameterAttribute => "FunctionParameterAttribute"
  | decoration => "Decoration"
  | builtIn => "BuiltIn"
  | groupOperation => "GroupOperation"
  | kernelEnqueueFlags => "KernelEnqueueFlags"
  | capability => "Capability"
  | packedVectorFormat => "PackedVectorFormat"
  | initializationModeQualifier => "InitializationModeQualifier"
  | loadCacheControl => "LoadCacheControl"
  | storeCacheControl => "StoreCacheControl"

/-- The known values: inclusive ranges, or the bits of a mask. -/
inductive Domain
  | ranges (bounds : List (Nat × Nat))
  | bits (known : UInt32)

/-- The value is one of the domain. -/
def Domain.contains (value : Word) : Domain → Bool
  | ranges bounds => bounds.any fun (low, high) => low ≤ value.toNat && value.toNat ≤ high
  | bits known => value &&& known == value

open Domain in
/-- What each enumeration knows. -/
def domain : Enumeration → Domain
  | imageOperands => bits 0x17fff
  | fpFastMathMode => bits 0x3001f
  | selectionControl => bits 0x3
  | loopControl => bits 0x3ff01ff
  | functionControl => bits 0x1000f
  | memoryAccess => bits 0x3003f
  | kernelProfilingInfo => bits 0x1
  | cooperativeMatrixOperands => bits 0x1f
  | sourceLanguage => ranges [(0, 11)]
  | executionModel => ranges [(0, 6), (5267, 5268), (5313, 5318), (5364, 5365)]
  | addressingModel => ranges [(0, 2), (5348, 5348)]
  | memoryModel => ranges [(0, 3)]
  | executionMode => ranges
    [(0, 12), (14, 31), (33, 39), (4169, 4171), (4421, 4421), (4446, 4446), (4459, 4463),
     (5017, 5017), (5027, 5027), (5069, 5069), (5071, 5073), (5077, 5077), (5079, 5084),
     (5269, 5270), (5289, 5290), (5298, 5298), (5366, 5371), (5618, 5618), (5620, 5623),
     (5893, 5896), (5903, 5903), (6154, 6154), (6160, 6160), (6417, 6417)]
  | storageClass => ranges
    [(0, 12), (4172, 4172), (5068, 5068), (5076, 5076), (5328, 5329), (5338, 5339), (5342, 5343),
     (5349, 5349), (5385, 5385), (5402, 5402), (5605, 5605), (5936, 5937)]
  | dim => ranges [(0, 6), (4173, 4173)]
  | samplerAddressingMode => ranges [(0, 4)]
  | samplerFilterMode => ranges [(0, 1)]
  | imageFormat => ranges [(0, 41)]
  | fpRoundingMode => ranges [(0, 3)]
  | fpDenormMode => ranges [(0, 1)]
  | quantizationModes => ranges [(0, 7)]
  | fpOperationMode => ranges [(0, 1)]
  | overflowModes => ranges [(0, 3)]
  | linkageType => ranges [(0, 2)]
  | accessQualifier => ranges [(0, 2)]
  | hostAccessQualifier => ranges [(0, 3)]
  | functionParameterAttribute => ranges [(0, 7), (5940, 5940)]
  | decoration => ranges
    [(0, 11), (13, 47), (4469, 4470), (4487, 4488), (4999, 4999), (5019, 5020), (5078, 5078),
     (5091, 5091), (5248, 5248), (5250, 5250), (5252, 5252), (5256, 5256), (5271, 5273),
     (5285, 5285), (5300, 5300), (5355, 5356), (5386, 5386), (5398, 5401), (5599, 5599),
     (5602, 5602), (5607, 5608), (5624, 5628), (5634, 5636), (5822, 5823), (5825, 5836),
     (5883, 5885), (5899, 5902), (5905, 5905), (5907, 5907), (5909, 5909), (5914, 5915),
     (5917, 5919), (5921, 5921), (5944, 5944), (6080, 6080), (6085, 6085), (6087, 6087),
     (6140, 6140), (6151, 6151), (6170, 6170), (6172, 6173), (6175, 6183), (6188, 6188),
     (6190, 6191), (6442, 6443)]
  | builtIn => ranges
    [(0, 1), (3, 20), (22, 34), (36, 43), (4160, 4164), (4416, 4420), (4424, 4426), (4432, 4432),
     (4438, 4438), (4440, 4440), (4444, 4444), (4992, 4998), (5014, 5014), (5021, 5021),
     (5073, 5073), (5253, 5253), (5257, 5258), (5261, 5262), (5264, 5264), (5274, 5281),
     (5286, 5287), (5292, 5296), (5299, 5299), (5319, 5327), (5330, 5335), (5337, 5337),
     (5344, 5344), (5351, 5352), (5374, 5377), (5405, 5406), (6021, 6021)]
  | groupOperation => ranges [(0, 3), (6, 8)]
  | kernelEnqueueFlags => ranges [(0, 2)]
  | capability => ranges
    [(0, 15), (17, 25), (27, 71), (4165, 4168), (4422, 4423), (4427, 4431), (4433, 4437),
     (4439, 4439), (4441, 4442), (4445, 4445), (4447, 4450), (4464, 4468), (4471, 4472),
     (4478, 4479), (4484, 4486), (5008, 5010), (5013, 5013), (5015, 5016), (5055, 5055),
     (5067, 5067), (5249, 5249), (5251, 5251), (5254, 5255), (5259, 5260), (5265, 5266),
     (5282, 5284), (5288, 5288), (5291, 5291), (5297, 5297), (5301, 5312), (5336, 5336),
     (5340, 5341), (5345, 5347), (5350, 5350), (5353, 5353), (5357, 5357), (5363, 5363),
     (5372, 5373), (5378, 5381), (5383, 5383), (5390, 5391), (5397, 5397), (5409, 5409),
     (5568, 5570), (5579, 5579), (5582, 5584), (5603, 5604), (5606, 5606), (5612, 5613),
     (5616, 5617), (5619, 5619), (5629, 5629), (5696, 5698), (5817, 5817), (5821, 5821),
     (5824, 5824), (5837, 5837), (5844, 5845), (5886, 5886), (5888, 5888), (5892, 5892),
     (5897, 5898), (5904, 5904), (5906, 5906), (5908, 5908), (5910, 5910), (5916, 5916),
     (5920, 5920), (5922, 5922), (5935, 5935), (5939, 5939), (5943, 5943), (5945, 5945),
     (5948, 5948), (6016, 6020), (6022, 6022), (6025, 6026), (6033, 6034), (6089, 6089),
     (6094, 6095), (6114, 6115), (6141, 6141), (6150, 6150), (6161, 6161), (6169, 6169),
     (6171, 6171), (6174, 6174), (6187, 6187), (6189, 6189), (6400, 6400), (6427, 6427),
     (6441, 6441)]
  | packedVectorFormat => ranges [(0, 0)]
  | initializationModeQualifier => ranges [(0, 1)]
  | loadCacheControl => ranges [(0, 4)]
  | storeCacheControl => ranges [(0, 3)]

/-- Whether the enumeration knows the value. -/
def knows (e : Enumeration) (value : Word) : Bool := e.domain.contains value

/-- The parameters of a mask: those of its set bits, lowest bit first. -/
def bitParameters (value : Word) (table : List (UInt32 × List OperandKind)) : List OperandKind :=
  table.flatMap fun (bit, kinds) => if value &&& bit == bit then kinds else []

/-- The parameters listed for a value, if any. -/
def valueParameters (value : Word) (table : List (List Nat × List OperandKind)) :
    List OperandKind :=
  (table.find? (·.1.contains value.toNat)).elim [] (·.2)

open OperandKind in
/-- Parameters of image operands. -/
def imageOperandParameters : List (UInt32 × List OperandKind) :=
  [(0x1, [id]), (0x2, [id]), (0x4, [id, id]), (0x8, [id]), (0x10, [id]), (0x20, [id]),
   (0x40, [id]), (0x80, [id]), (0x100, [scope]), (0x200, [scope]), (0x10000, [id])]

open OperandKind in
/-- Parameters of loop controls. -/
def loopControlParameters : List (UInt32 × List OperandKind) :=
  [(0x8, [literal]), (0x10, [literal]), (0x20, [literal]), (0x40, [literal]), (0x80, [literal]),
   (0x100, [literal]), (0x10000, [literal]), (0x20000, [literal]), (0x40000, [literal]),
   (0x80000, [literal]), (0x100000, [literal]), (0x200000, [literal]), (0x400000, [literal]),
   (0x1000000, [literal]), (0x2000000, [literal])]

open OperandKind in
/-- Parameters of memory accesses. -/
def memoryAccessParameters : List (UInt32 × List OperandKind) :=
  [(0x2, [literal]), (0x8, [scope]), (0x10, [scope]), (0x10000, [id]), (0x20000, [id])]

open OperandKind in
/-- Parameters of execution modes. -/
def executionModeParameters : List (List Nat × List OperandKind) :=
  [([0, 26, 30, 35, 36, 4459, 4460, 4461, 4462, 4463, 5270, 5618, 5620, 5621, 5622, 5623, 5894,
      5896, 5903, 6154, 6160, 6417], [literal]),
   ([17, 18, 5893], [literal, literal, literal]),
   ([37, 5071, 5073], [id]),
   ([38, 39, 5072, 5077], [id, id, id])]

open OperandKind in
/-- Parameters of decorations. -/
def decorationParameters : List (List Nat × List OperandKind) :=
  [([1, 6, 7, 29, 30, 31, 32, 33, 34, 35, 36, 37, 43, 44, 45, 5256, 5599, 5625, 5628, 5827, 5828,
      5829, 5832, 5835, 5836, 5883, 5884, 5900, 5902, 5917, 5918, 5919, 5921, 5944, 6170, 6172,
      6177, 6178, 6179, 6181, 6182, 6191], [literal]),
   ([5909], [literal, literal]),
   ([6173], [literal, literal, literal]),
   ([11], [value builtIn]),
   ([27], [scope]),
   ([38], [value functionParameterAttribute]),
   ([39], [value fpRoundingMode]),
   ([40], [value fpFastMathMode]),
   ([41], [string, value linkageType]),
   ([46, 47, 5019, 5020, 5634, 5914, 5915], [id]),
   ([5091, 5607, 5635, 5636, 5826], [string]),
   ([5834], [string, string]),
   ([5822], [literal, value fpRoundingMode]),
   ([5823], [literal, value fpDenormMode]),
   ([6080], [literal, value fpOperationMode]),
   ([6180], [value accessQualifier]),
   ([6188], [value hostAccessQualifier, string]),
   ([6190], [value initializationModeQualifier]),
   ([6442], [literal, value loadCacheControl]),
   ([6443], [literal, value storeCacheControl])]

/-- The parameters that follow a value. -/
def parameters (e : Enumeration) (value : Word) : List OperandKind :=
  match e with
  | imageOperands => bitParameters value imageOperandParameters
  | loopControl => bitParameters value loopControlParameters
  | memoryAccess => bitParameters value memoryAccessParameters
  | executionMode => valueParameters value executionModeParameters
  | decoration => valueParameters value decorationParameters
  | _ => []

end ShaderKit.Spirv.Enumeration
