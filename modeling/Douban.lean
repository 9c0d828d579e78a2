import Douban.Library.Machine
import Douban.Library.Simulation
import Douban.Library.Reordering
import Douban.Library.Accumulation
import Douban.Library.Pattern
import Douban.Library.Fields
import Douban.Library.Traversal
import Douban.Library.NearestEven
import Douban.Library.FloatGrid
import Douban.Dart.Text
import Douban.Dart.Number
import Douban.Dart.Json
import Douban.Dart.Effect
import Douban.Dart.DoubleArithmetic
import Douban.Service.HttpRequest
import Douban.Service.HttpAnswers
import Douban.InterceptorIsolation
import Douban.Model.HomeModel
import Douban.Service.HomeRequest
import Douban.Model.MovieResponse
import Douban.MovieListFidelity
import Douban.Model.MovieAcceptance
import Douban.Utils.Log
import Douban.Utils.StackFrame
import Douban.Utils.FileNameSearch
import Douban.Utils.TraceAcceptance
import Douban.Utils.ReadableFrame
import Douban.Utils.FrameRoundTrip
import Douban.Utils.ScreenSizeFit
import Douban.Widgets.Widget
import Douban.Widgets.StarRating
import Douban.Widgets.StandardRow
import Douban.Pages.HomeMovieItem
import Douban.Pages.HomeContent
import Douban.Pages.HomeScreen
import Douban.Application
import Douban.AnswerOrder
import Douban.InterceptorHandlers
import Douban.Pages.MainPage
