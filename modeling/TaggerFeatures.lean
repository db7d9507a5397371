import TaggerFeatures.FeatureSet.Table
import TaggerFeatures.Main
import TaggerFeatures.Proofs.Corpus.LastWrite
import TaggerFeatures.Proofs.Architecture.Depth
import TaggerFeatures.Proofs.Template.Window
import TaggerFeatures.Proofs.Template.Padding
import TaggerFeatures.Proofs.Template.Dependence
import TaggerFeatures.Proofs.Architecture.Expansion
import TaggerFeatures.Proofs.Architecture.Concatenation
import TaggerFeatures.Proofs.Architecture.Meaning
import TaggerFeatures.Proofs.Architecture.Tokenwise
import TaggerFeatures.Proofs.FeatureSet.Partition
import TaggerFeatures.Proofs.FeatureSet.Reuse
import TaggerFeatures.Proofs.FeatureSet.Table
import TaggerFeatures.Proofs.Corpus.Calls
import TaggerFeatures.Proofs.Architecture.Limit
import TaggerFeatures.Proofs.Architecture.Emission
import TaggerFeatures.Proofs.Architecture.Denotation
import TaggerFeatures.Proofs.Architecture.Spacing
import TaggerFeatures.Proofs.Template.Collision
import TaggerFeatures.Proofs.Corpus.TaggedText
import TaggerFeatures.Proofs.CommandLine.Ending
import TaggerFeatures.Proofs.CommandLine.Listing
import TaggerFeatures.Proofs.Template.Participle
import TaggerFeatures.Proofs.Architecture.NormalForm
import TaggerFeatures.Proofs.Architecture.Mirror
import TaggerFeatures.Proofs.Architecture.Unordered
import TaggerFeatures.Proofs.WordShape
import TaggerFeatures.Proofs.Template.Dictionary
import TaggerFeatures.Proofs.Architecture.TwoDictionaries
import TaggerFeatures.Proofs.Architecture.Fault
import TaggerFeatures.Proofs.Architecture.Arguments
import TaggerFeatures.Proofs.Template.Capitalized
import TaggerFeatures.Proofs.Settings.Validation
import TaggerFeatures.Proofs.Architecture.StrictTokens
import TaggerFeatures.Proofs.FeatureSet.Row
import TaggerFeatures.Proofs.Settings.Loaded
