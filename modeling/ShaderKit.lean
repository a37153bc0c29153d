import ShaderKit.Binding.Kind
import ShaderKit.Binding.Layout
import ShaderKit.Binding.Mask
import ShaderKit.Binding.NumberMap
import ShaderKit.Binding.Stage
import ShaderKit.Config
import ShaderKit.Device.Basic
import ShaderKit.Device.Cache
import ShaderKit.Device.Session
import ShaderKit.Digest
import ShaderKit.EntryPoint.Compatibility
import ShaderKit.EntryPoint.Metadata
import ShaderKit.EntryPoint.RequiredSizes
import ShaderKit.Ir.Check.Components
import ShaderKit.Ir.Check.Constants
import ShaderKit.Ir.Check.Expressions
import ShaderKit.Ir.Check.Fault
import ShaderKit.Ir.Check.Interface
import ShaderKit.Ir.Check.Module
import ShaderKit.Ir.Check.Operands
import ShaderKit.Ir.Check.Statements
import ShaderKit.Ir.Check.Types
import ShaderKit.Ir.Compact
import ShaderKit.Ir.Describe
import ShaderKit.Ir.Expression
import ShaderKit.Ir.FloatFormat
import ShaderKit.Ir.Layout
import ShaderKit.Ir.Module
import ShaderKit.Ir.Scalar
import ShaderKit.Ir.Type
import ShaderKit.Ir.Typing
import ShaderKit.Ir.Usage
import ShaderKit.Limits
import ShaderKit.Proofs.Binding.Insertions
import ShaderKit.Proofs.Binding.Mask
import ShaderKit.Proofs.Binding.NumberMap
import ShaderKit.Proofs.Binding.Packing
import ShaderKit.Proofs.Device.Accounting
import ShaderKit.Proofs.Device.Cache
import ShaderKit.Proofs.Device.Handles
import ShaderKit.Proofs.Device.Lifetime
import ShaderKit.Proofs.Device.Session
import ShaderKit.Proofs.Device.Sources
import ShaderKit.Proofs.Device.Transparency
import ShaderKit.Proofs.EntryPoint.Compatibility
import ShaderKit.Proofs.EntryPoint.DerivedLayout
import ShaderKit.Proofs.EntryPoint.Relaxation
import ShaderKit.Proofs.EntryPoint.RequiredSizes
import ShaderKit.Proofs.EntryPoint.Textures
import ShaderKit.Proofs.Ir.Evaluation
import ShaderKit.Proofs.Ir.Execution
import ShaderKit.Proofs.Ir.Flattening
import ShaderKit.Proofs.Ir.TypingRules
import ShaderKit.Proofs.Reflection.Annotations
import ShaderKit.Proofs.Reflection.Buffers
import ShaderKit.Proofs.Reflection.Coverage
import ShaderKit.Proofs.Reflection.Parity
import ShaderKit.Proofs.Reflection.Representation
import ShaderKit.Proofs.Reflection.Sizes
import ShaderKit.Proofs.Reflection.TypedInventory
import ShaderKit.Proofs.Reflection.Walks
import ShaderKit.Proofs.Resource.Contents
import ShaderKit.Proofs.Resource.Defects
import ShaderKit.Proofs.Resource.Extractable
import ShaderKit.Proofs.Resource.Order
import ShaderKit.Proofs.Spirv.Failures
import ShaderKit.Proofs.Spirv.Reading
import ShaderKit.Proofs.Spirv.Sections
import ShaderKit.Proofs.Std.Depth
import ShaderKit.Proofs.Std.Except
import ShaderKit.Proofs.Std.Growth
import ShaderKit.Proofs.Std.List
import ShaderKit.Proofs.Std.Walk
import ShaderKit.Proofs.Validation.Ids
import ShaderKit.Proofs.Validation.Positions
import ShaderKit.Proofs.Validation.Stages
import ShaderKit.Proofs.Vertex.Acceptance
import ShaderKit.Proofs.Vertex.Assembly
import ShaderKit.Proofs.Vertex.Builder
import ShaderKit.Proofs.Vertex.Decoding
import ShaderKit.Proofs.Vertex.Dependence
import ShaderKit.Proofs.Vertex.Emission
import ShaderKit.Proofs.Vertex.Feeding
import ShaderKit.Proofs.Vertex.Fetch
import ShaderKit.Proofs.Vertex.Frame
import ShaderKit.Proofs.Vertex.Input
import ShaderKit.Proofs.Vertex.Memory
import ShaderKit.Proofs.Vertex.Order
import ShaderKit.Proofs.Vertex.Placement
import ShaderKit.Proofs.Vertex.Pulling
import ShaderKit.Proofs.Vertex.Roles
import ShaderKit.Proofs.Vertex.WellTyped
import ShaderKit.Proofs.Vertex.WordOffsets
import ShaderKit.Proofs.Wire.Buffering
import ShaderKit.Proofs.Wire.Callbacks
import ShaderKit.Proofs.Wire.Codec
import ShaderKit.Proofs.Wire.Exchange
import ShaderKit.Proofs.Wire.Requests
import ShaderKit.Reflection.Backend
import ShaderKit.Reflection.BlockSize
import ShaderKit.Reflection.Declared
import ShaderKit.Reflection.Definitions
import ShaderKit.Reflection.Error
import ShaderKit.Reflection.Typed
import ShaderKit.Resource.Extraction
import ShaderKit.Resource.Inventory
import ShaderKit.ShaderModule.Basic
import ShaderKit.ShaderModule.CompilationInfo
import ShaderKit.ShaderModule.Descriptor
import ShaderKit.Spirv.BrokenRule
import ShaderKit.Spirv.Emit.Code.Access
import ShaderKit.Spirv.Emit.Code.Image
import ShaderKit.Spirv.Emit.Code.Math
import ShaderKit.Spirv.Emit.Code.Operator
import ShaderKit.Spirv.Emit.Code.RayQuery
import ShaderKit.Spirv.Emit.Code.State
import ShaderKit.Spirv.Emit.Code.Statement
import ShaderKit.Spirv.Emit.Code.Subgroup
import ShaderKit.Spirv.Emit.Interface
import ShaderKit.Spirv.Emit.Module
import ShaderKit.Spirv.Emit.State
import ShaderKit.Spirv.Emit.Types
import ShaderKit.Spirv.Enumerants
import ShaderKit.Spirv.Grammar.Core
import ShaderKit.Spirv.Grammar.Enumeration
import ShaderKit.Spirv.Grammar.Extension
import ShaderKit.Spirv.Grammar.Kind
import ShaderKit.Spirv.Grammar.Slot
import ShaderKit.Spirv.Grammar.Table
import ShaderKit.Spirv.Instruction
import ShaderKit.Spirv.Lift.Body.Access
import ShaderKit.Spirv.Lift.Body.Assemble
import ShaderKit.Spirv.Lift.Body.Atomic
import ShaderKit.Spirv.Lift.Body.Block
import ShaderKit.Spirv.Lift.Body.Effect
import ShaderKit.Spirv.Lift.Body.Image
import ShaderKit.Spirv.Lift.Body.Operator
import ShaderKit.Spirv.Lift.Body.State
import ShaderKit.Spirv.Lift.Body.Subgroup
import ShaderKit.Spirv.Lift.Constants
import ShaderKit.Spirv.Lift.Decorations
import ShaderKit.Spirv.Lift.Error
import ShaderKit.Spirv.Lift.Function
import ShaderKit.Spirv.Lift.Interface
import ShaderKit.Spirv.Lift.Module
import ShaderKit.Spirv.Lift.State
import ShaderKit.Spirv.Lift.Types
import ShaderKit.Spirv.Lift.Variables
import ShaderKit.Spirv.Module
import ShaderKit.Spirv.Opcode
import ShaderKit.Spirv.ReadFailure
import ShaderKit.Spirv.Reader
import ShaderKit.Text.Blank
import ShaderKit.Text.CharSet
import ShaderKit.Text.Hex
import ShaderKit.Text.Identifier
import ShaderKit.Text.Quoted
import ShaderKit.Text.Utf8
import ShaderKit.Texture.Component
import ShaderKit.Texture.Dimension
import ShaderKit.Texture.Format
import ShaderKit.Validation.Check
import ShaderKit.Validation.Header
import ShaderKit.Validation.Report
import ShaderKit.Validation.Structure
import ShaderKit.Vertex.Format
import ShaderKit.Vertex.Pulling.Builder
import ShaderKit.Vertex.Pulling.EntryPoint
import ShaderKit.Vertex.Pulling.Error
import ShaderKit.Vertex.Pulling.Placement
import ShaderKit.Vertex.State
import ShaderKit.Wgsl.Compile
import ShaderKit.Wgsl.Fault
import ShaderKit.Wgsl.Lower.BuiltinCall
import ShaderKit.Wgsl.Lower.Construct
import ShaderKit.Wgsl.Lower.Declaration
import ShaderKit.Wgsl.Lower.Expression
import ShaderKit.Wgsl.Lower.State
import ShaderKit.Wgsl.Lower.Statement
import ShaderKit.Wgsl.Lower.Term
import ShaderKit.Wgsl.Names
import ShaderKit.Wgsl.Number
import ShaderKit.Wgsl.Parser.Basic
import ShaderKit.Wgsl.Parser.Declaration
import ShaderKit.Wgsl.Parser.Expression
import ShaderKit.Wgsl.Parser.Statement
import ShaderKit.Wgsl.Syntax
import ShaderKit.Wgsl.Token
import ShaderKit.Wgsl.Value.Basic
import ShaderKit.Wgsl.Value.Conversion
import ShaderKit.Wgsl.Value.Literal
import ShaderKit.Wgsl.Value.Math
import ShaderKit.Wgsl.Value.Operator
import ShaderKit.Wgsl.Words
import ShaderKit.Wire.Client
import ShaderKit.Wire.Command
import ShaderKit.Wire.Connection
import ShaderKit.Wire.Server
