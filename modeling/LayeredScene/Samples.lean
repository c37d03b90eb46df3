/-! # Sample sources

Source texts to try things out with. -/

namespace LayeredScene.Samples

def arm : String :=
  "# Skeletal arm with soft tissue\n" ++
  "HUMAN_BODY > skeletal > humerus cylinder downward 35cm diameter 2cm bone smooth\n" ++
  "HUMAN_BODY > skeletal > radius cylinder downward 25cm diameter 1.5cm bone attach humerus\n" ++
  "HUMAN_BODY > skeletal > ulna cylinder downward 26cm diameter 1.4cm bone attach humerus\n" ++
  "\n" ++
  "HUMAN_BODY > muscular > biceps blob forward 3cm 8cm flesh soft\n" ++
  "HUMAN_BODY > muscular > triceps blob backward 3cm 9cm flesh soft\n" ++
  "HUMAN_BODY > vascular > brachial_artery cylinder forward 1cm diameter 4mm flesh\n" ++
  "HUMAN_BODY > dermis > wrap cylinder 36cm diameter 9cm skin\n" ++
  "HUMAN_BODY > epidermis > wrap cylinder 36cm diameter 9.2cm skin smooth\n"

def chair : String :=
  "CHAIR > seat > surface forward 50cm cushion soft\n" ++
  "CHAIR > legs > cylinder downward 45cm diameter 3cm wood repeat 4\n" ++
  "CHAIR > legs > cylinder downleft 40cm diameter 3cm wood\n" ++
  "CHAIR > padding > cube 40cm fabric soft\n"

/-- Several objects, and a line that holds no statement. -/
def mixed : String :=
  "CHAIR > seat > cube 45cm wood\n" ++
  "CHAIR > back > cube upward 40cm wood\n" ++
  "\n" ++
  "LAMP > base > cylinder 20cm metal\n" ++
  "LAMP > shade\n" ++
  "LAMP > shade > cone upward 30cm glass\n" ++
  "CHAIR > legs > cylinder downward 45cm\n"

/-- A line for every word that names a shape. -/
def shapes : String :=
  "SAMPLER > row > cube 10cm\n" ++
  "SAMPLER > row > box forward 20cm\n" ++
  "SAMPLER > row > sphere forward 40cm\n" ++
  "SAMPLER > row > cylinder forward 60cm\n" ++
  "SAMPLER > row > cone forward 80cm\n" ++
  "SAMPLER > row > pyramid forward 1m\n" ++
  "SAMPLER > row > blob forward 120cm\n" ++
  "SAMPLER > row > droplet forward 140cm\n" ++
  "SAMPLER > row > egg forward 160cm\n"

end LayeredScene.Samples
