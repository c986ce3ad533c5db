import GeoRaster.Bounds
import GeoRaster.Catalog
import GeoRaster.Catalog.Document
import GeoRaster.Coverage.BandSelection
import GeoRaster.Coverage.Descriptor
import GeoRaster.Coverage.Document
import GeoRaster.Coverage.Example
import GeoRaster.Crs
import GeoRaster.Crs.Identifier
import GeoRaster.Decimal.Basic
import GeoRaster.Decimal.Layout
import GeoRaster.Decimal.Shortest
import GeoRaster.Envelope
import GeoRaster.Envelope.BoundingBox
import GeoRaster.Envelope.Document
import GeoRaster.Envelope.Resolution
import GeoRaster.Envelope.Transformed
import GeoRaster.Exception
import GeoRaster.Format
import GeoRaster.Grid.Affine
import GeoRaster.Grid.Document
import GeoRaster.Grid.Geometry
import GeoRaster.Grid.Planning
import GeoRaster.Grid.Range
import GeoRaster.Interpolation
import GeoRaster.Json.Basic
import GeoRaster.Json.Parser
import GeoRaster.Json.Record
import GeoRaster.Main
import GeoRaster.Metrics
import GeoRaster.Pipeline
import GeoRaster.Projection
import GeoRaster.Projection.Geographic
import GeoRaster.Projection.Polar
import GeoRaster.Projection.Standard
import GeoRaster.Projection.Transformation
import GeoRaster.Proofs.Answer
import GeoRaster.Proofs.Antimeridian
import GeoRaster.Proofs.AxisOrder
import GeoRaster.Proofs.BandIndependence
import GeoRaster.Proofs.Bandwise
import GeoRaster.Proofs.Block
import GeoRaster.Proofs.CallStages
import GeoRaster.Proofs.CatalogFiles
import GeoRaster.Proofs.CatalogHistory
import GeoRaster.Proofs.CellGround
import GeoRaster.Proofs.CellLookup
import GeoRaster.Proofs.CellSpan
import GeoRaster.Proofs.CheckedPlanning
import GeoRaster.Proofs.CommonPart
import GeoRaster.Proofs.Conservation
import GeoRaster.Proofs.CoveringCells
import GeoRaster.Proofs.Crop
import GeoRaster.Proofs.CroppedBlock
import GeoRaster.Proofs.CrsNames
import GeoRaster.Proofs.DeliveredShape
import GeoRaster.Proofs.Disjoint
import GeoRaster.Proofs.DocumentText
import GeoRaster.Proofs.Documents
import GeoRaster.Proofs.Double
import GeoRaster.Proofs.Encoding
import GeoRaster.Proofs.Exact
import GeoRaster.Proofs.FileLayout
import GeoRaster.Proofs.FileLength
import GeoRaster.Proofs.FileRoundTrip
import GeoRaster.Proofs.FirstFault
import GeoRaster.Proofs.FormatChoice
import GeoRaster.Proofs.GridExtent
import GeoRaster.Proofs.GridOfAnswer
import GeoRaster.Proofs.Ground
import GeoRaster.Proofs.HiddenMarkers
import GeoRaster.Proofs.KernelExactness
import GeoRaster.Proofs.KernelTaps
import GeoRaster.Proofs.LoadedCoverages
import GeoRaster.Proofs.LowerCase
import GeoRaster.Proofs.NativeCells
import GeoRaster.Proofs.NativeCopy
import GeoRaster.Proofs.NearestAnswer
import GeoRaster.Proofs.NearestValues
import GeoRaster.Proofs.NumberText
import GeoRaster.Proofs.Order
import GeoRaster.Proofs.OutputFiles
import GeoRaster.Proofs.OutputPaths
import GeoRaster.Proofs.OutputSize
import GeoRaster.Proofs.Placement
import GeoRaster.Proofs.Plane
import GeoRaster.Proofs.PlannedExtent
import GeoRaster.Proofs.Planning
import GeoRaster.Proofs.Rational
import GeoRaster.Proofs.ReaderAgreement
import GeoRaster.Proofs.Records
import GeoRaster.Proofs.Reprojection
import GeoRaster.Proofs.RequestedGrids
import GeoRaster.Proofs.Resolution
import GeoRaster.Proofs.RowWindow
import GeoRaster.Proofs.SampledBorder
import GeoRaster.Proofs.Sampling
import GeoRaster.Proofs.ScaleInPlace
import GeoRaster.Proofs.SelectedBands
import GeoRaster.Proofs.Settled
import GeoRaster.Proofs.ShownLatitudes
import GeoRaster.Proofs.SidecarLayout
import GeoRaster.Proofs.Single
import GeoRaster.Proofs.Stages
import GeoRaster.Proofs.StringText
import GeoRaster.Proofs.Timings
import GeoRaster.Proofs.Validation
import GeoRaster.Query
import GeoRaster.Raster
import GeoRaster.Raster.Crop
import GeoRaster.Raster.Kernel
import GeoRaster.Raster.Reproject
import GeoRaster.Raster.Scale
import GeoRaster.Reader
import GeoRaster.Reader.Encoding
import GeoRaster.Reader.RawFile
import GeoRaster.Request
import GeoRaster.Request.Document
import GeoRaster.Scalar
import GeoRaster.Scalar.Exact
import GeoRaster.Scalar.Machine
import GeoRaster.Service
import GeoRaster.Service.Session
import GeoRaster.Settings
import GeoRaster.Sidecar
import GeoRaster.Text.Alphanumeric
import GeoRaster.Text.Basic
import GeoRaster.Text.LowerCase
import GeoRaster.Text.Quoted
import GeoRaster.Word
import GeoRaster.Worker
import GeoRaster.Worker.EnvironmentFile
import GeoRaster.Worker.Options
import GeoRaster.Yaml.Document
import GeoRaster.Yaml.Lexer
import GeoRaster.Yaml.Parser
import GeoRaster.Yaml.Place
import GeoRaster.Yaml.Record
import GeoRaster.Yaml.Scalar
import GeoRaster.Yaml.Tag
