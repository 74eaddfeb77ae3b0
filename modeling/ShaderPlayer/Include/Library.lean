/-
The include library.

The shader texts that come with the player: mathematics, and strings of a fixed
size.  Once the string library is included, string literals are encoded.
-/
import ShaderPlayer.Outside.FileTree

namespace ShaderPlayer.Include

/-- The lines of the mathematics library. -/
def mathLines : List String := [
  "const PI = 3.14159265358979323846;",
  "const TAU = 6.28318530717958647692;",
  "",
  "fn rotate2(angle: float) -> float2x2 \x7b",
  "    let c = cos(angle);",
  "    let s = sin(angle);",
  "    return float2x2(c, s, -s, c);",
  "\x7d",
  "",
  "fn hash12(p: float2) -> float \x7b",
  "    var p3 = fract(float3(p.xyx) * 0.1031);",
  "    p3 += dot(p3, p3.yzx + 33.33);",
  "    return fract((p3.x + p3.y) * p3.z);",
  "\x7d"]

/-- The lines of the string library. -/
def stringLines : List String := [
  "// Fixed size strings. After `#include <string>` every string literal is",
  "// rewritten to String(len, array<uint,STRING_MAX_LEN>(...)).",
  "struct String \x7b",
  "    len: uint,",
  "    chars: array<uint, STRING_MAX_LEN>,",
  "\x7d",
  "",
  "fn string_char(s: String, index: uint) -> uint \x7b",
  "    if (index >= s.len) \x7b",
  "        return 0u;",
  "    \x7d",
  "    var chars = s.chars;",
  "    return chars[index];",
  "\x7d",
  "",
  "fn string_equal(a: String, b: String) -> bool \x7b",
  "    if (a.len != b.len) \x7b",
  "        return false;",
  "    \x7d",
  "    var ac = a.chars;",
  "    var bc = b.chars;",
  "    for (var i = 0u; i < a.len; i++) \x7b",
  "        if (ac[i] != bc[i]) \x7b",
  "            return false;",
  "        \x7d",
  "    \x7d",
  "    return true;",
  "\x7d"]

/-- Lines as a text, each ended by a line feed. -/
def ofLines (lines : List String) : Text := lines.flatMap fun line => line.toList ++ ['\n']

/-- The directory of the library.  No path from the root leads there, but one that
leaves it may come back. -/
def libraryRoot : Location := [[], "src".toList, "codeskew".toList, "include".toList]

/-- The files of the library. -/
def library : FileTree where
  files := [
    (libraryRoot ++ ["std".toList, "math.wgsl".toList], { bytes := (ofLines mathLines).encode }),
    (libraryRoot ++ ["std".toList, "string.wgsl".toList],
      { bytes := (ofLines stringLines).encode })]

end ShaderPlayer.Include
