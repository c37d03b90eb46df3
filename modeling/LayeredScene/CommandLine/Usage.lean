/-! # Usage -/

namespace LayeredScene

def usage : String :=
  "\n".intercalate
    ["Usage: genec [OPTIONS] <INPUT|->",
     "",
     "Compile GENE object descriptions into 3D scene documents.",
     "",
     "Options:",
     "  --format <json|vls|glb|summary>  Output format (default: json)",
     "  --out <PATH>                     Write output to PATH instead of stdout",
     "  --seed <N>                       Base seed for organic shapes",
     "  --settings <PATH>                Load settings from PATH",
     "  --sequential                     Generate geometry on one thread",
     "  --compact                        Compact JSON output",
     "  --help                           Show this message",
     "",
     "Logging is controlled by RUST_LOG (default: genec=info,gene_lib=info)."]

end LayeredScene
