import Exif.Logging.Setup
import Exif.Scan
import Exif.Version
import Exif.Proofs.Independence
import Exif.Proofs.Logging.Delivery
import Exif.Proofs.Logging.Repetition
import Exif.Proofs.Metadata.Agreement
import Exif.Proofs.Metadata.Collection
import Exif.Proofs.Quantity.Absence
import Exif.Proofs.Quantity.Blame
import Exif.Proofs.Quantity.Extension
import Exif.Proofs.Quantity.Summary
import Exif.Proofs.Rejections
import Exif.Proofs.Thumbnail
import Exif.Proofs.FileStore
import Exif.Proofs.Text.LowerCase
import Exif.Proofs.FileFormat
import Exif.Proofs.Backend
import Exif.Proofs.Quantity.Precedence
import Exif.Proofs.Quantity.FilmEquivalent
import Exif.Proofs.Quantity.Orientation
import Exif.Proofs.Text.Recovery
import Exif.Proofs.TiffHeader.Extent
import Exif.Proofs.TiffHeader.FillBytes
import Exif.Proofs.Double.Nearest
import Exif.Proofs.Double.Rounding
import Exif.Proofs.TagStore.Readings
import Exif.Proofs.TagStore.Coherence
import Exif.Proofs.Path.Name
import Exif.Proofs.FileFormat.Language
import Exif.Proofs.FileTree.Walk
import Exif.Proofs.FileTree.Gathering
import Exif.Proofs.Settings.Shape
import Exif.Proofs.TiffHeader.Turns
import Exif.Proofs.TagStore.Construction
