/-!
# Fixed maxima

Shader code is untrusted input.  Every index that reflection records is compared with one of these
bounds, and going over one is an error, never a silent cut.
-/

namespace ShaderKit.Limits

/-- Bind groups that a pipeline layout can hold. -/
def bindGroups : Nat := 4

/-- Largest binding number a shader may declare within a group. -/
def bindingNumber : Nat := 65535

/-- Vertex attribute locations available to a vertex shader. -/
def vertexAttributes : Nat := 16

/-- Vertex buffer slots that a vertex state can describe. -/
def vertexBuffers : Nat := 16

/-- Color attachments that a fragment shader can write. -/
def colorAttachments : Nat := 4

/-- Longest accepted SPIR-V module, in words. -/
def spirvWords : Nat := 4 * 1024 * 1024

end ShaderKit.Limits
